import FlowAudit.Number.Scalar

/-!
# FlowAudit.Score.Grade

Letter grades. A grade is the best one whose lower bound a score reaches; a score that reaches none,
or that cannot be compared, gets the worst.
-/

namespace FlowAudit

/-- Letter grades, best first. -/
inductive Grade where
  | a
  | b
  | c
  | d
  | f
  deriving Repr, DecidableEq

namespace Grade

def all : List Grade := [a, b, c, d, f]

def letter : Grade → String
  | a => "A"
  | b => "B"
  | c => "C"
  | d => "D"
  | f => "F"

/-- The place of a grade in the order from best to worst. -/
def rank : Grade → Nat
  | a => 0
  | b => 1
  | c => 2
  | d => 3
  | f => 4

end Grade

/-- The lower bound of each grade but the worst; a score on the bound has reached it. -/
structure GradeBands (ν : Type) where
  a : ν
  b : ν
  c : ν
  d : ν
  deriving Repr, DecidableEq

namespace GradeBands

variable {ν : Type} [Scalar ν]

/-- The bounds used where none are set. -/
def standard : GradeBands ν where
  a := Scalar.ofNat 90
  b := Scalar.ofNat 75
  c := Scalar.ofNat 50
  d := Scalar.ofNat 25

/-- Whether the bounds fall strictly from the best grade on. -/
def isDescending (bands : GradeBands ν) : Bool :=
  Scalar.lt bands.b bands.a && Scalar.lt bands.c bands.b && Scalar.lt bands.d bands.c

/-- The grade of a score. -/
def grade (bands : GradeBands ν) (score : ν) : Grade :=
  if Scalar.le bands.a score then .a
  else if Scalar.le bands.b score then .b
  else if Scalar.le bands.c score then .c
  else if Scalar.le bands.d score then .d
  else .f

end GradeBands

end FlowAudit
