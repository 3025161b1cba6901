import FlowAudit.Time.Civil
import FlowAudit.Time.Span

/-!
# FlowAudit.Time.Instant

Points in time, in UTC and to the nanosecond. A leap second is written as an overlong second: its
nanoseconds run on from one thousand million. Instants reach from `earliest` to `latest`;
`Instant.plus?` says when a sum would leave that range, and `windowStart` then takes the earliest
instant instead.
-/

namespace FlowAudit

/-- A point in time. -/
structure Instant where
  /-- Days since 1970-01-01. -/
  day : Int
  second : Fin 86400
  /-- Nanoseconds; from one thousand million on they lie in a leap second. -/
  nano : Fin 2000000000
  deriving Repr, DecidableEq

namespace Instant

/-- The seconds of a day. -/
def secondsPerDay : Int := 86400

/-- The first day an instant can lie on: -262143-01-01. -/
def firstDay : Int := Date.toDays ⟨-262143, 1, 1⟩

/-- The last day an instant can lie on: +262142-12-31. -/
def lastDay : Int := Date.toDays ⟨262142, 12, 31⟩

def earliest : Instant := ⟨firstDay, 0, 0⟩

def latest : Instant := ⟨lastDay, 86399, 999999999⟩

/-- A number that orders instants: days first, then seconds, then nanoseconds. -/
def key (t : Instant) : Int :=
  (t.day * secondsPerDay + t.second) * 2000000000 + t.nano

instance : LE Instant := ⟨fun a b => a.key ≤ b.key⟩

instance : LT Instant := ⟨fun a b => a.key < b.key⟩

instance (a b : Instant) : Decidable (a ≤ b) := inferInstanceAs (Decidable (a.key ≤ b.key))

instance (a b : Instant) : Decidable (a < b) := inferInstanceAs (Decidable (a.key < b.key))

/-- Whether an instant lies between two others, ends included. -/
def between (t low high : Instant) : Bool :=
  low ≤ t && t ≤ high

/-- Seconds since 1970 began; a leap second counts as the second before it. -/
def unixSeconds (t : Instant) : Int :=
  t.day * secondsPerDay + t.second

/-- The instant on a day at a second with some nanoseconds, all within their bounds. -/
def onDay (day : Int) (second nano : Nat) : Instant :=
  ⟨day, Fin.ofNat _ second, Fin.ofNat _ nano⟩

/-- The instant some nanoseconds after the beginning of 1970, if there is one. -/
def ofUnixNanos? (nanos : Int) : Option Instant :=
  let seconds := nanos / Span.nanosPerSecond
  let nano := (nanos % Span.nanosPerSecond).toNat
  let day := seconds / secondsPerDay
  let second := (seconds % secondsPerDay).toNat
  if firstDay ≤ day && day ≤ lastDay then some (onDay day second nano) else none

/-- The instant a span later, if there is one. A sum that stays within a leap second, or goes back
into the second before it, keeps the overlong count; any other leaves the leap second, forwards from
its begin and backwards from its end. -/
def plus? (t : Instant) (span : Span) : Option Instant :=
  let seconds := span.nanos.tdiv Span.nanosPerSecond
  let fraction := span.nanos.tmod Span.nanosPerSecond
  let plain (unix : Int) (nano : Int) : Option Instant :=
    ofUnixNanos? (unix * Span.nanosPerSecond + nano + span.nanos)
  if t.nano < 1000000000 then plain t.unixSeconds t.nano
  else if seconds > 0 || (fraction > 0 && t.nano + fraction ≥ 2000000000) then
    plain t.unixSeconds (t.nano - 1000000000)
  else if seconds < 0 then plain (t.unixSeconds + 1) (t.nano - 1000000000)
  else some { t with nano := Fin.ofNat _ (t.nano + fraction).toNat }

/-- The instant a span earlier, if there is one. -/
def minus? (t : Instant) (span : Span) : Option Instant :=
  t.plus? ⟨-span.nanos⟩

/-- The beginning of the window of a given length that ends at `now`. A window that reaches back
beyond all time begins with it. -/
def windowStart (now : Instant) (window : Span) : Instant :=
  (now.minus? window).getD earliest

/-- The time from `earlier` to `later`. A leap second between them counts when `earlier` lies in it
and `later` comes in a later second of the day, and the other way round. -/
def since (later earlier : Instant) : Span :=
  let leap : Int :=
    if later.second > earlier.second && earlier.nano ≥ 1000000000 then 1
    else if later.second < earlier.second && later.nano ≥ 1000000000 then -1
    else 0
  ⟨(later.unixSeconds - earlier.unixSeconds + leap) * Span.nanosPerSecond + (later.nano : Int)
    - earlier.nano⟩

/-- Nanoseconds since 1970 began, if they fit in sixty-four bits; before 1970 the seconds have to
fit after rounding towards 1970. -/
def unixNanos? (t : Instant) : Option Int :=
  let seconds := t.unixSeconds
  let wholeNanos := (if seconds < 0 then seconds + 1 else seconds) * Span.nanosPerSecond
  let nanos := seconds * Span.nanosPerSecond + t.nano
  if Number.fitsInt64 wholeNanos && Number.fitsInt64 nanos then some nanos else none

/-- The beginning of the hour of an instant. An instant whose distance from 1970 does not fit in
sixty-four bits of nanoseconds has no such hour and stands for itself. -/
def hourStart (t : Instant) : Instant :=
  match t.unixNanos? with
  | none => t
  | some nanos =>
    let past := nanos % (3600 * Span.nanosPerSecond)
    if past = 0 then t else (t.minus? ⟨past⟩).getD t

end Instant

end FlowAudit
