import FlowAudit.Time.Instant

/-!
# FlowAudit.Time.Layout

Instants as text. Records hold them in the internet form, a date and a time in UTC with as many
fraction digits (none, three, six or nine) as it takes; reports show dates and times of day. Years
outside 0 to 9999 carry a sign.
-/

namespace FlowAudit

/-- The decimal digits of a number, with zeros before them up to a width. -/
def padZero (width n : Nat) : String :=
  let digits := Nat.repr n
  String.ofList (List.replicate (width - digits.length) '0') ++ digits

namespace Date

/-- A year of at least four digits, with a sign outside 0 to 9999. -/
def yearText (year : Int) : String :=
  if 0 ≤ year && year ≤ 9999 then padZero 4 year.toNat
  else (if year < 0 then "-" else "+") ++ padZero 4 year.natAbs

/-- Year, month and day. -/
def text (date : Date) : String :=
  yearText date.year ++ "-" ++ padZero 2 date.month ++ "-" ++ padZero 2 date.day

end Date

namespace Instant

def date (t : Instant) : Date :=
  Date.ofDays t.day

def hour (t : Instant) : Nat := t.second.val / 3600

def minute (t : Instant) : Nat := t.second.val / 60 % 60

/-- The second of the minute; sixty in a leap second. -/
def secondOfMinute (t : Instant) : Nat :=
  t.second.val % 60 + t.nano.val / 1000000000

/-- The nanoseconds of the second. -/
def fraction (t : Instant) : Nat :=
  t.nano.val % 1000000000

/-- Hours and minutes. -/
def clockText (t : Instant) : String :=
  padZero 2 t.hour ++ ":" ++ padZero 2 t.minute

/-- Hours, minutes and seconds. -/
def timeText (t : Instant) : String :=
  t.clockText ++ ":" ++ padZero 2 t.secondOfMinute

/-- Date, hours and minutes. -/
def minuteText (t : Instant) : String :=
  t.date.text ++ " " ++ t.clockText

/-- Date, hours, minutes and seconds. -/
def secondText (t : Instant) : String :=
  t.date.text ++ " " ++ t.timeText

/-- Date and hour, shown as a full hour. -/
def hourText (t : Instant) : String :=
  t.date.text ++ " " ++ padZero 2 t.hour ++ ":00"

/-- The fraction of a second with the least of none, three, six or nine digits that is exact. -/
def fractionText (nanos : Nat) : String :=
  if nanos = 0 then ""
  else if nanos % 1000000 = 0 then "." ++ padZero 3 (nanos / 1000000)
  else if nanos % 1000 = 0 then "." ++ padZero 6 (nanos / 1000)
  else "." ++ padZero 9 nanos

/-- An instant as records hold it. -/
def text (t : Instant) : String :=
  t.date.text ++ "T" ++ t.timeText ++ fractionText t.fraction ++ "Z"

end Instant

end FlowAudit
