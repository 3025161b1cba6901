import FlowAudit.Number.Binary

/-!
# FlowAudit.Number.Decimal

Decimal digits of floating-point numbers.

* `shortest` gives the fewest significant digits that read back as the same number, and of those the
  nearest to it. Where two are equally near, a `Tie` decides.
* `fixed` gives a number to a fixed number of places, rounding its exact value; a tie goes to the
  even digit.
* `ofDecimal` reads a decimal number as the nearest floating-point number.

How digits are laid out as text (where the point goes, when an exponent is written) is decided by
`positional` and `scientific`.
-/

namespace FlowAudit.Number

/-- A positive decimal number: `digits` times ten to the power `exponent`. -/
structure Decimal where
  digits : Nat
  exponent : Int
  deriving Repr, DecidableEq

/-- Which of two neighbours a number right between them goes to. -/
inductive Tie where
  /-- The one whose last digit is even. -/
  | toEven
  /-- The greater one. -/
  | up
  deriving Repr, DecidableEq

/-- Whether a tie goes to the lower neighbour, given its digits. -/
def Tie.goesDown (tie : Tie) (below : Nat) : Bool :=
  match tie with
  | .toEven => below % 2 = 0
  | .up => false

/-- The decimal digits of a natural number. -/
def digitChars (n : Nat) : List Char :=
  Nat.toDigits 10 n

/-- The number that decimal digits write. -/
def digitsValue (digits : List Char) : Nat :=
  digits.foldl (fun n c => 10 * n + (c.toNat - '0'.toNat)) 0

/-- Multiply a fraction by a power of a base. -/
def scaleFraction (base : Nat) (power : Int) (num den : Nat) : Nat × Nat :=
  if power ≥ 0 then (num * Nat.pow base power.toNat, den)
  else (num, den * Nat.pow base (-power).toNat)

/-- The numbers that are read as a given one: those from `low` to `high` over `den`, with the ends
counting when `closed`. -/
structure Interval where
  low : Nat
  high : Nat
  den : Nat
  closed : Bool

/-- Whether `digits` times ten to the power `exponent` lies in the interval. -/
def Interval.holds (i : Interval) (d : Decimal) : Bool :=
  let (num, den) := scaleFraction 10 d.exponent d.digits 1
  let here := num * i.den
  if i.closed then i.low * den ≤ here && here ≤ i.high * den
  else i.low * den < here && here < i.high * den

/-- The reals that round to a positive binary number. Below a power of two the numbers stand twice
as close. -/
def Binary.interval (v : Binary) : Interval :=
  let lowGap := if v.mantissa = wordSize 52 && v.exponent > -1074 then 1 else 2
  let (low, den) := scaleFraction 2 (v.exponent - 2) (4 * v.mantissa - lowGap) 1
  let (high, _) := scaleFraction 2 (v.exponent - 2) (4 * v.mantissa + 2) 1
  { low, high, den, closed := v.mantissa % 2 = 0 }

/-- The least power of ten above a positive fraction, looked for from a first guess on. -/
def powerAbove (num den : Nat) : Nat → Int → Int
  | 0, guess => guess
  | fuel + 1, guess =>
    let (n, d) := scaleFraction 10 (-guess) num den
    if n < d then guess else powerAbove num den fuel (guess + 1)

/-- The nearer of the two neighbours of a fraction on the decimal grid with the given exponent that
lie in the interval. -/
def neighbour? (tie : Tie) (i : Interval) (num den : Nat) (exponent : Int) : Option Decimal :=
  let (n, d) := scaleFraction 10 (-exponent) num den
  let below : Decimal := ⟨n / d, exponent⟩
  let above : Decimal := ⟨n / d + 1, exponent⟩
  match i.holds below, i.holds above with
  | true, true =>
    let twice := 2 * (n % d)
    some (if twice < d || (twice = d && tie.goesDown below.digits) then below else above)
  | true, false => some below
  | false, true => some above
  | false, false => none

/-- The first grid with a neighbour in the interval, from coarse to fine. -/
def firstNeighbour (tie : Tie) (i : Interval) (num den : Nat) : Nat → Int → Decimal
  | 0, exponent => ⟨(scaleFraction 10 (-exponent) num den).1, exponent⟩
  | fuel + 1, exponent =>
    match neighbour? tie i num den exponent with
    | some d => d
    | none => firstNeighbour tie i num den fuel (exponent - 1)

/-- A decimal number without zeros at its end; `fuel` bounds how many are dropped. -/
def dropZeros : Nat → Decimal → Decimal
  | 0, d => d
  | fuel + 1, d =>
    if d.digits ≠ 0 && d.digits % 10 = 0 then dropZeros fuel ⟨d.digits / 10, d.exponent + 1⟩ else d

/-- The fewest digits that read back as a positive binary number, the nearest of those. -/
def shortest (tie : Tie) (v : Binary) : Decimal :=
  let (num, den) := scaleFraction 2 v.exponent v.mantissa 1
  let bits : Int := (Nat.log2 v.mantissa : Int) + v.exponent
  let power := powerAbove num den 4 (bits * 30103 / 100000)
  dropZeros 20 (firstNeighbour tie v.interval num den 20 (power - 1))

/-- A decimal number in positional notation: whole part and fraction part. -/
def positional (d : Decimal) : List Char × List Char :=
  let digits := digitChars d.digits
  if d.exponent ≥ 0 then (digits ++ List.replicate d.exponent.toNat '0', [])
  else
    let places := (-d.exponent).toNat
    if digits.length > places then digits.splitAt (digits.length - places)
    else (['0'], List.replicate (places - digits.length) '0' ++ digits)

/-- A decimal number with one digit before the point and an exponent, whose sign is always
written. -/
def scientific (d : Decimal) : List Char :=
  match digitChars d.digits with
  | [] => []
  | first :: rest =>
    let exponent := d.exponent + rest.length
    first :: (if rest.isEmpty then [] else '.' :: rest)
      ++ 'e' :: (if exponent < 0 then '-' else '+') :: digitChars exponent.natAbs

/-- A fraction rounded to a whole number; a tie goes to the even one. -/
def roundHalfEven (num den : Nat) : Nat :=
  let low := num / den
  let twice := 2 * (num % den)
  if twice < den || (twice = den && Tie.toEven.goesDown low) then low else low + 1

/-- A sign before a text. -/
def withSign (negative : Bool) (text : List Char) : List Char :=
  if negative then '-' :: text else text

/-- A number to a fixed number of places. -/
def fixed (places : Nat) (x : Float) : List Char :=
  match parts x with
  | .nan => "NaN".toList
  | .infinite negative => withSign negative "inf".toList
  | .finite v =>
    let (num, den) := scaleFraction 2 v.exponent (v.mantissa * Nat.pow 10 places) 1
    let (whole, fraction) := positional ⟨roundHalfEven num den, -(places : Int)⟩
    withSign v.negative (if places = 0 then whole else whole ++ '.' :: fraction)

/-- A number in plain notation with as few digits as it takes, never with an exponent. A tie goes
up. -/
def plain (x : Float) : List Char :=
  match parts x with
  | .nan => "NaN".toList
  | .infinite negative => withSign negative "inf".toList
  | .finite v =>
    if v.mantissa = 0 then withSign v.negative ['0']
    else
      let (whole, fraction) := positional (shortest .up v)
      withSign v.negative (if fraction.isEmpty then whole else whole ++ '.' :: fraction)

/-- The nearest floating-point number to `digits` times ten to the power `exponent`; zero and
infinity when it is too small or too large for any other. -/
def ofDecimal (digits : Nat) (exponent : Int) : Float :=
  let size : Int := (digitChars digits).length + exponent
  if digits = 0 || size < -330 then 0
  else if size > 310 then 1 / 0
  else Float.ofScientific digits (exponent < 0) exponent.natAbs

end FlowAudit.Number
