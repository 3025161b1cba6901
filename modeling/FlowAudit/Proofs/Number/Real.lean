import FlowAudit.Number.Scalar
import Mathlib.Algebra.Order.Round
import Mathlib.Analysis.Real.Sqrt

/-!
# FlowAudit.Proofs.Number.Real

Scores and statistics over the real numbers, where roots are exact too. Nothing is computed with these;
they are what a statement about a score with a root in it is read over.
-/

namespace FlowAudit

open scoped Classical in
noncomputable instance : Scalar ℝ where
  ofNat n := n
  abs x := |x|
  sqrt x := √x
  round x := if x < 0 then -(⌊-x + 1 / 2⌋ : ℝ) else ⌊x + 1 / 2⌋
  lt a b := a < b
  le a b := a ≤ b
  precedes a b := a ≤ b

end FlowAudit
