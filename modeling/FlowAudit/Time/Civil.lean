/-!
# FlowAudit.Time.Civil

Dates of the proleptic Gregorian calendar and their distance in days from 1970-01-01. Years are
counted from March here, so that the leap day comes last and the days before each month follow one
linear formula.
-/

namespace FlowAudit

/-- A calendar date. -/
structure Date where
  year : Int
  month : Nat
  day : Nat
  deriving Repr, DecidableEq

namespace Date

def isLeapYear (year : Int) : Bool :=
  year % 4 = 0 && (year % 100 ≠ 0 || year % 400 = 0)

/-- The number of days of a month; zero when there is no such month. -/
def daysInMonth (year : Int) (month : Nat) : Nat :=
  match month with
  | 2 => if isLeapYear year then 29 else 28
  | 4 | 6 | 9 | 11 => 30
  | 1 | 3 | 5 | 7 | 8 | 10 | 12 => 31
  | _ => 0

/-- Whether a month has such a day. -/
def isValid (date : Date) : Bool :=
  1 ≤ date.day && date.day ≤ daysInMonth date.year date.month

/-- The days from 1970-01-01 to a date. -/
def toDays (date : Date) : Int :=
  let year := if date.month ≤ 2 then date.year - 1 else date.year
  let era := year / 400
  let yearOfEra := year - era * 400
  let monthFromMarch : Int := (date.month + 9) % 12
  let dayOfYear := (153 * monthFromMarch + 2) / 5 + date.day - 1
  let dayOfEra := yearOfEra * 365 + yearOfEra / 4 - yearOfEra / 100 + dayOfYear
  era * 146097 + dayOfEra - 719468

/-- The date a number of days from 1970-01-01. -/
def ofDays (days : Int) : Date :=
  let shifted := days + 719468
  let era := shifted / 146097
  let dayOfEra := shifted - era * 146097
  let yearOfEra := (dayOfEra - dayOfEra / 1460 + dayOfEra / 36524 - dayOfEra / 146096) / 365
  let dayOfYear := dayOfEra - (365 * yearOfEra + yearOfEra / 4 - yearOfEra / 100)
  let monthFromMarch := (5 * dayOfYear + 2) / 153
  let day := dayOfYear - (153 * monthFromMarch + 2) / 5 + 1
  let month := (monthFromMarch + 2) % 12 + 1
  let year := yearOfEra + era * 400
  { year := if month ≤ 2 then year + 1 else year, month := month.toNat, day := day.toNat }

end Date

end FlowAudit
