import FlowAudit.Number.Scalar
import Mathlib.Data.Nat.Sqrt
import Mathlib.Data.Rat.Floor

/-!
# FlowAudit.Proofs.Number.Exact

Scores and statistics over exact fractions, which can be computed within a proof. Only roots are not
exact: of a root there is the whole part.
-/

namespace FlowAudit

instance : Scalar ℚ where
  ofNat n := n
  abs x := if x < 0 then -x else x
  sqrt x := Nat.sqrt x.floor.toNat
  round x := if x < 0 then -((-x + 1 / 2).floor : ℚ) else (x + 1 / 2).floor
  lt a b := a < b
  le a b := a ≤ b
  precedes a b := a ≤ b

end FlowAudit
