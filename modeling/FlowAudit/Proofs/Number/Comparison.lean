import FlowAudit.Number.Binary
import FlowAudit.Proofs.Number.Exact
import Mathlib.Data.Prod.Lex

/-!
# FlowAudit.Proofs.Number.Comparison

**Comparisons form an order**, for the exact fractions and for the floating-point numbers that programs
run with (`Scalar.Ordered`). A floating-point number has a `place` in a linear order, unless it is not a
number at all: first the sign decides, then the exponent, then the mantissa. Its comparisons are those of
the places (`lt_iff_place`, `le_iff_place`), so what fails all comparisons does no harm to the rest.
-/

namespace FlowAudit

/-- Numbers that are compared by an order, as far as they can be compared at all. -/
class Scalar.Ordered (ν : Type) [Scalar ν] : Prop where
  le_of_lt {x y : ν} : lt x y → le x y
  le_trans {x y z : ν} : le x y → le y z → le x z
  lt_of_le_of_lt {x y z : ν} : le x y → lt y z → lt x z

instance : Scalar.Ordered ℚ where
  le_of_lt less := decide_eq_true (of_decide_eq_true less : _ < _).le
  le_trans le le' := decide_eq_true ((of_decide_eq_true le : _ ≤ _).trans (of_decide_eq_true le'))
  lt_of_le_of_lt le less :=
    decide_eq_true ((of_decide_eq_true le : _ ≤ _).trans_lt (of_decide_eq_true less))

namespace Number

open Float.Model

/-- The place of a number in the order: the infinite ones at both ends, zero in the middle, and the
others by their exponent first and then by their mantissa. -/
def place : UnpackedFloat → Option (ℤ ×ₗ ℤ ×ₗ ℤ)
  | .notANumber => none
  | .infinity .negative => some (toLex (-2, toLex (0, 0)))
  | .finite .negative m e _ => some (toLex (-1, toLex (-e, -m)))
  | .zero _ => some (toLex (0, toLex (0, 0)))
  | .finite .positive m e _ => some (toLex (1, toLex (e, m)))
  | .infinity .positive => some (toLex (2, toLex (0, 0)))

theorem compare_natCast (m n : ℕ) : compare (m : ℤ) (n : ℤ) = compare m n := by
  rw [← cmp_eq_compare, ← cmp_eq_compare]
  exact Nat.strictMono_cast.cmp_map_eq m n

theorem compare_neg (a b : ℤ) : compare (-a) (-b) = (compare a b).swap := by
  have anti : StrictAnti fun z : ℤ => -z := fun _ _ less => neg_lt_neg less
  rw [← cmp_eq_compare, ← cmp_eq_compare, cmp_swap]
  exact anti.cmp_map_eq a b

/-- Numbers compare as their places do, and those without a place do not compare. -/
theorem compare_eq_place (x y : UnpackedFloat) :
    x.compare y = (place x).bind fun a => (place y).map fun b => compare a b := by
  rcases x with (_ | _) | _ | _ | ⟨_ | _, m, e, _⟩ <;>
    rcases y with (_ | _) | _ | _ | ⟨_ | _, m', e', _⟩
  -- Numbers of different kinds compare by their kinds alone.
  all_goals try rfl
  · show some ((compare e e').then (compare m m')).swap =
      some ((compare (-e) (-e')).then (compare (-(m : ℤ)) (-(m' : ℤ))))
    rw [compare_neg, compare_neg, compare_natCast, Ordering.swap_then]
  · show some ((compare e e').then (compare m m')) =
      some ((compare e e').then (compare (m : ℤ) m'))
    rw [compare_natCast]

/-- **One number is below another if its place comes before.** -/
theorem lt_iff_place (x y : Float) : Scalar.lt x y ↔
    ∃ a ∈ place x.toModel.unpack, ∃ b ∈ place y.toModel.unpack, a < b := by
  have unpacked : Scalar.lt x y = x.toModel.unpack.lt y.toModel.unpack := by
    show decide (_ = true) = _
    rw [Bool.decide_eq_true]
    show decide (_ = true) = _
    rw [Bool.decide_eq_true]
    rfl
  rw [unpacked]
  unfold UnpackedFloat.lt
  rw [compare_eq_place]
  cases place x.toModel.unpack <;> cases place y.toModel.unpack <;> simp [compare_lt_iff_lt]

/-- **One number is at most another if its place does not come after.** -/
theorem le_iff_place (x y : Float) : Scalar.le x y ↔
    ∃ a ∈ place x.toModel.unpack, ∃ b ∈ place y.toModel.unpack, a ≤ b := by
  have unpacked : Scalar.le x y = x.toModel.unpack.le y.toModel.unpack := by
    show decide (_ = true) = _
    rw [Bool.decide_eq_true]
    show decide (_ = true) = _
    rw [Bool.decide_eq_true]
    rfl
  rw [unpacked]
  unfold UnpackedFloat.le
  rw [compare_eq_place]
  cases place x.toModel.unpack <;> cases place y.toModel.unpack <;>
    simp [Ordering.isLE_iff_ne_gt, compare_gt_iff_gt]

instance : Scalar.Ordered Float where
  le_of_lt {x y} less := by
    obtain ⟨a, first, b, second, order⟩ := (lt_iff_place x y).mp less
    exact (le_iff_place x y).mpr ⟨a, first, b, second, order.le⟩
  le_trans {x y z} le le' := by
    obtain ⟨a, first, b, middle, order⟩ := (le_iff_place x y).mp le
    obtain ⟨b', middle', c, last, order'⟩ := (le_iff_place y z).mp le'
    obtain rfl := Option.mem_unique middle middle'
    exact (le_iff_place x z).mpr ⟨a, first, c, last, order.trans order'⟩
  lt_of_le_of_lt {x y z} le less := by
    obtain ⟨a, first, b, middle, order⟩ := (le_iff_place x y).mp le
    obtain ⟨b', middle', c, last, order'⟩ := (lt_iff_place y z).mp less
    obtain rfl := Option.mem_unique middle middle'
    exact (lt_iff_place x z).mpr ⟨a, first, c, last, order.trans_lt order'⟩

end Number

end FlowAudit
