import FlowAudit.Number.Scalar
import FlowAudit.Rule.Word
import FlowAudit.Source.Mask

/-!
# FlowAudit.Score.Complexity

Structural complexity of a unit. Three counts make it up: decision points in code, the deepest brace
nesting, and the lines that are not blank. The score grows with each of them, with the last one only
as its square root.
-/

namespace FlowAudit

open FlowAudit.Rule FlowAudit.Source

/-- The keywords that open a decision. -/
def decisionWords : List (List Char) :=
  ["if", "for", "while", "do", "case", "catch"].map String.toList

/-- The decision operators of a line of code: `&&`, `||` and `??`, each alone or with the `=` of an
assignment, and the `?` of a conditional. The `?.` of a property access is none. -/
def countOperators : List Char → Nat
  | '&' :: '&' :: '=' :: rest => countOperators rest + 1
  | '|' :: '|' :: '=' :: rest => countOperators rest + 1
  | '?' :: '?' :: '=' :: rest => countOperators rest + 1
  | '&' :: '&' :: rest => countOperators rest + 1
  | '|' :: '|' :: rest => countOperators rest + 1
  | '?' :: '?' :: rest => countOperators rest + 1
  | '?' :: '.' :: rest => countOperators rest
  | '?' :: rest => countOperators rest + 1
  | _ :: rest => countOperators rest
  | [] => 0

/-- The decision points of a line of code. -/
def countDecisions (code : List Char) : Nat :=
  (freeWords decisionWords code).length + countOperators code

/-- The counts that complexity is computed from. -/
structure ComplexityCounts where
  decisions : Nat := 0
  nesting : Nat := 0
  nonBlank : Nat := 0
  deriving Repr, DecidableEq

namespace ComplexityCounts

/-- The counts with one more line; blank lines count for nothing. -/
def addLine (counts : ComplexityCounts) (line : Line) : ComplexityCounts :=
  if line.isBlank then counts
  else
    { decisions := counts.decisions + countDecisions line.code
      nesting := max counts.nesting (deepest line.depth line.code)
      nonBlank := counts.nonBlank + 1 }

/-- The counts of a source. -/
def ofSource (source : List Char) : ComplexityCounts :=
  (maskSource source).foldl addLine {}

variable {ν : Type} [Scalar ν]

/-- Decisions, twice the nesting, and half the square root of the lines that are not blank. -/
def score (counts : ComplexityCounts) : ν :=
  if counts.nonBlank = 0 then Scalar.ofNat 0
  else
    Scalar.ofNat counts.decisions + Scalar.ofNat 2 * Scalar.ofNat counts.nesting
      + Scalar.ratio 1 2 * Scalar.sqrt (Scalar.ofNat counts.nonBlank)

end ComplexityCounts

/-- The complexity of a source. -/
def complexity {ν : Type} [Scalar ν] (source : List Char) : ν :=
  (ComplexityCounts.ofSource source).score

end FlowAudit
