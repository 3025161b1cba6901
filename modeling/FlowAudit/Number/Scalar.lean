/-!
# FlowAudit.Number.Scalar

The numbers that scores and statistics are computed with. Every formula of the library is written
over `Scalar`, so that one definition serves both the 64-bit floating-point numbers that programs run
with and exact numbers. Comparisons are Boolean tests, and a value that cannot be compared fails all
of them; `atLeast`, `atMost` and `clamp` are defined through these tests and so never return such a
value unless it is the one being clamped.
-/

namespace FlowAudit

/-- The arithmetic that scores and statistics need. -/
class Scalar (ν : Type) extends Add ν, Sub ν, Mul ν, Div ν where
  ofNat : Nat → ν
  abs : ν → ν
  sqrt : ν → ν
  /-- The nearest whole number; a half goes away from zero. -/
  round : ν → ν
  lt : ν → ν → Bool
  le : ν → ν → Bool
  /-- A total order to sort by, which agrees with `le` on numbers that compare. -/
  precedes : ν → ν → Bool

namespace Scalar

variable {ν : Type} [Scalar ν]

/-- `x`, or `high` when `x` is not below it. -/
def atMost (high x : ν) : ν :=
  if lt x high then x else high

/-- `x`, or `low` when `x` is not above it. -/
def atLeast (low x : ν) : ν :=
  if lt low x then x else low

/-- `x` moved to the nearer end of the range when it lies outside. -/
def clamp (low high x : ν) : ν :=
  if lt x low then low else if lt high x then high else x

/-- Whether two numbers compare as equal. -/
def eq (a b : ν) : Bool :=
  le a b && le b a

/-- A whole number of parts of a unit. -/
def ratio (parts unit : Nat) : ν :=
  ofNat parts / ofNat unit

/-- The sum of a list, from its first number on. -/
def sum : List ν → ν
  | [] => ofNat 0
  | x :: rest => rest.foldl (· + ·) x

/-- The mean of a list, summed up from zero; zero for the empty list. -/
def mean (xs : List ν) : ν :=
  if xs.isEmpty then ofNat 0 else xs.foldl (· + ·) (ofNat 0) / ofNat xs.length

/-- Rounded to a number of places given by its power of ten. -/
def roundTo (scale : Nat) (x : ν) : ν :=
  round (x * ofNat scale) / ofNat scale

/-- Rounded to two decimal places, which is how scores are stored. -/
def round2 (x : ν) : ν :=
  roundTo 100 x

end Scalar

end FlowAudit
