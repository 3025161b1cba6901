import FlowAudit.Number.Decimal
import FlowAudit.Text.Class
import FlowAudit.Text.Reader
import FlowAudit.Time.Layout

/-!
# FlowAudit.Time.Reader

Reading instants. The form is a date, a `T`, a `t` or one blank, a time of day with seconds and
perhaps a fraction, and an offset from UTC. It is read generously: blanks may stand before each part,
numbers may leave out leading zeros, a year may carry a sign and then have any length, and the offset
is `Z`, `UTC` or a sign with hours and minutes, which colons and blanks may divide. Second sixty is a
leap second. Fraction digits after the ninth are dropped.
-/

namespace FlowAudit.Time

open FlowAudit.Number FlowAudit.Text FlowAudit.Text.Reader

/-- Pass over blanks. -/
def blanks : Reader Unit :=
  modify trimStart

/-- At least one digit and at most `width`. -/
def digits (width : Nat) : Reader (List Char) := fun text =>
  let found := (text.take width).takeWhile isAsciiDigit
  if found.isEmpty then none else some (found, text.drop found.length)

/-- Any number of digits, but at least one. -/
def allDigits : Reader (List Char) := fun text =>
  digits text.length text

/-- A number between two bounds, of at most two digits, after blanks. -/
def smallNumber (low high : Nat) : Reader Nat := do
  blanks
  let n := digitsValue (← digits 2)
  guard (low ≤ n && n ≤ high)
  return n

/-- A year: four digits at most, or a sign and any number of them. -/
def year : Reader Int := do
  blanks
  match ← get with
  | '-' :: rest => set rest; return -(digitsValue (← allDigits) : Int)
  | '+' :: rest => set rest; return digitsValue (← allDigits)
  | _ => return digitsValue (← digits 4)

/-- A date, if it is one of the calendar that instants reach. -/
def date : Reader Date := do
  let year ← year
  blanks
  character '-'
  let month ← smallNumber 1 12
  blanks
  character '-'
  let day ← smallNumber 1 31
  let date : Date := { year, month, day }
  guard (date.isValid && -262143 ≤ year && year ≤ 262142)
  return date

/-- The fraction of a second in nanoseconds, if there is one. -/
def fraction : Reader Nat := do
  match ← get with
  | '.' :: rest =>
    set rest
    let found ← digits 9
    modify (List.dropWhile isAsciiDigit)
    return digitsValue found * Nat.pow 10 (9 - found.length)
  | _ => return 0

/-- The second of a day and its nanoseconds. -/
def timeOfDay : Reader (Nat × Nat) := do
  let hour ← smallNumber 0 23
  blanks
  character ':'
  let minute ← smallNumber 0 59
  blanks
  character ':'
  let second ← smallNumber 0 60
  let nano ← fraction
  if second = 60 then return ((hour * 60 + minute) * 60 + 59, 1000000000 + nano)
  else return ((hour * 60 + minute) * 60 + second, nano)

/-- Two digits, as a number below a bound. -/
def twoDigits (bound : Nat) : Reader Nat := fun
  | a :: b :: rest =>
    let n := digitsValue [a, b]
    if isAsciiDigit a && isAsciiDigit b && n < bound then some (n, rest) else none
  | _ => none

/-- Hours and minutes of an offset, in seconds. -/
def hoursMinutes : Reader Int := do
  let hours ← twoDigits 100
  modify (List.dropWhile fun c => c == ':' || isBlank c)
  let minutes ← twoDigits 60
  return (hours * 60 + minutes) * 60

/-- An offset from UTC, in seconds. It is less than a day. -/
def offset : Reader Int := do
  let seconds ← (do
    match ← get with
    | c :: rest =>
      if ((c :: rest).take 3).map asciiLower = ['u', 't', 'c'] then set (rest.drop 2); return 0
      set rest
      if c = 'Z' || c = 'z' then return 0
      else if c = '+' then hoursMinutes
      else if c = '-' || c = '\u2212' then return -(← hoursMinutes)
      else failure
    | [] => failure)
  guard (seconds.natAbs < 86400)
  return seconds

/-- An instant. -/
def instant : Reader Instant := do
  let date ← date
  match ← get with
  | c :: rest => guard (c = 'T' || c = 't' || c = ' '); set rest
  | [] => failure
  let (second, nano) ← timeOfDay
  blanks
  let seconds := date.toDays * Instant.secondsPerDay + second - (← offset)
  let day := seconds / Instant.secondsPerDay
  guard (Instant.firstDay ≤ day && day ≤ Instant.lastDay)
  return Instant.onDay day (seconds % Instant.secondsPerDay).toNat nano

end FlowAudit.Time

namespace FlowAudit

/-- The instant that a text gives, if the whole of it does; blanks may follow. -/
def Instant.ofText? (text : String) : Option Instant :=
  match Time.instant.run text.toList with
  | some (t, rest) => if Text.allBlank rest then some t else none
  | none => none

end FlowAudit
