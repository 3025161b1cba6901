import FlowAudit.Proofs.Number.Exact
import Mathlib.Algebra.BigOperators.Group.List.Basic
import Mathlib.Algebra.Order.BigOperators.Group.List
import Mathlib.Data.List.MinMax
import Mathlib.Tactic.Linarith

/-!
# FlowAudit.Proofs.Number.Order

**Exact scores keep their order.** Over exact fractions, bounding and adding up are what their names say
(`atMost_eq_min`, `atLeast_eq_max`, `clamp_eq`, `sum_eq`), a mean lies between the bounds of its numbers
(`le_sum_div_length`, `sum_div_length_le`), and rounding never puts a smaller number above a greater one
(`round2_mono`), moves it by half a hundredth at most (`abs_round2_sub_le`) and leaves alone what has no
more than two places (`round2_round2`, `round2_natCast`).
-/

namespace FlowAudit.Scalar

@[simp]
theorem lt_iff {x y : ℚ} : lt x y = true ↔ x < y := decide_eq_true_iff

@[simp]
theorem ofNat_eq (n : Nat) : (ofNat n : ℚ) = n := rfl

/-! ### Bounds -/

theorem atMost_eq_min (high x : ℚ) : atMost high x = min high x := by
  unfold atMost
  by_cases below : x < high
  · rw [if_pos (lt_iff.mpr below), min_eq_right below.le]
  · rw [if_neg (mt lt_iff.mp below), min_eq_left (not_lt.mp below)]

theorem atLeast_eq_max (low x : ℚ) : atLeast low x = max low x := by
  unfold atLeast
  by_cases above : low < x
  · rw [if_pos (lt_iff.mpr above), max_eq_right above.le]
  · rw [if_neg (mt lt_iff.mp above), max_eq_left (not_lt.mp above)]

theorem clamp_eq {low high : ℚ} (range : low ≤ high) (x : ℚ) :
    clamp low high x = max low (min high x) := by
  unfold clamp
  by_cases below : x < low
  · rw [if_pos (lt_iff.mpr below), min_eq_right (below.le.trans range), max_eq_left below.le]
  · rw [if_neg (mt lt_iff.mp below)]
    by_cases above : high < x
    · rw [if_pos (lt_iff.mpr above), min_eq_left above.le, max_eq_right range]
    · rw [if_neg (mt lt_iff.mp above), min_eq_right (not_lt.mp above),
        max_eq_right (not_lt.mp below)]

/-! ### Sums -/

theorem foldl_add (start : ℚ) (xs : List ℚ) : xs.foldl (· + ·) start = start + xs.sum := by
  induction xs generalizing start with
  | nil => exact (add_zero start).symm
  | cons x rest ih => rw [List.foldl_cons, ih, List.sum_cons, add_assoc]

/-- A sum may begin with its first number or with zero. -/
theorem sum_eq (xs : List ℚ) : sum xs = xs.sum := by
  cases xs with
  | nil => rfl
  | cons x rest => exact foldl_add x rest

theorem sum_le_sum {α : Type} {R : α → α → Prop} {f : α → ℚ} {xs ys : List α}
    (each : ∀ x y, R x y → f y ≤ f x) (related : List.Forall₂ R xs ys) :
    sum (ys.map f) ≤ sum (xs.map f) := by
  rw [sum_eq, sum_eq]
  induction related with
  | nil => exact le_rfl
  | cons head _ ih => exact add_le_add (each _ _ head) ih

theorem sum_perm {xs ys : List ℚ} (same : xs.Perm ys) : sum xs = sum ys := by
  rw [sum_eq, sum_eq, same.sum_eq]

/-- What no number of a list is below its mean is not below. -/
theorem le_sum_div_length {low : ℚ} {xs : List ℚ} (nonempty : xs ≠ []) (above : ∀ x ∈ xs, low ≤ x) :
    low ≤ sum xs / ofNat xs.length := by
  have some_number : (0 : ℚ) < ofNat xs.length := Nat.cast_pos.mpr (List.length_pos_iff.mpr nonempty)
  have total : low * ofNat xs.length ≤ xs.sum := by
    have least := List.card_nsmul_le_sum xs low above
    rwa [nsmul_eq_mul, mul_comm] at least
  rw [sum_eq, le_div_iff₀ some_number]
  exact total

/-- What no number of a list is above its mean is not above. -/
theorem sum_div_length_le {high : ℚ} {xs : List ℚ} (nonempty : xs ≠ []) (below : ∀ x ∈ xs, x ≤ high) :
    sum xs / ofNat xs.length ≤ high := by
  have some_number : (0 : ℚ) < ofNat xs.length := Nat.cast_pos.mpr (List.length_pos_iff.mpr nonempty)
  have total : xs.sum ≤ high * ofNat xs.length := by
    have most := List.sum_le_card_nsmul xs high below
    rwa [nsmul_eq_mul, mul_comm] at most
  rw [sum_eq, div_le_iff₀ some_number]
  exact total

/-- Among members there is one with the least number and one with the greatest. -/
theorem exists_extremes {α : Type} (f : α → ℚ) {members : List α} (nonempty : members ≠ []) :
    ∃ least ∈ members, ∃ greatest ∈ members, ∀ a ∈ members, f least ≤ f a ∧ f a ≤ f greatest := by
  obtain ⟨least, isLeast⟩ := Option.ne_none_iff_exists'.mp
    (mt List.argmin_eq_none.mp nonempty : members.argmin f ≠ none)
  obtain ⟨greatest, isGreatest⟩ := Option.ne_none_iff_exists'.mp
    (mt List.argmax_eq_none.mp nonempty : members.argmax f ≠ none)
  exact ⟨least, List.argmin_mem isLeast, greatest, List.argmax_mem isGreatest, fun a member =>
    ⟨List.le_of_mem_argmin member isLeast, List.le_of_mem_argmax member isGreatest⟩⟩

/-! ### Rounding -/

/-- The whole number nearest to one that is not negative is not negative. -/
theorem floor_add_half_nonneg {x : ℚ} (nonneg : 0 ≤ x) : 0 ≤ (x + 1 / 2).floor :=
  Rat.le_floor_iff.mpr (by simpa using by linarith)

theorem floor_add_half_mono {x y : ℚ} (le : x ≤ y) : (x + 1 / 2).floor ≤ (y + 1 / 2).floor :=
  Rat.floor_monotone (by linarith)

/-- Rounding keeps the order below zero, above it, and across. -/
theorem round_mono {x y : ℚ} (le : x ≤ y) : round x ≤ round y := by
  show (if x < 0 then -((-x + 1 / 2).floor : ℚ) else (x + 1 / 2).floor) ≤
    if y < 0 then -((-y + 1 / 2).floor : ℚ) else (y + 1 / 2).floor
  by_cases first : x < 0
  · rw [if_pos first]
    by_cases second : y < 0
    · rw [if_pos second]
      have away := floor_add_half_mono (neg_le_neg le)
      exact neg_le_neg (by exact_mod_cast away)
    · rw [if_neg second]
      have low := floor_add_half_nonneg (x := -x) (by linarith)
      have high := floor_add_half_nonneg (not_lt.mp second)
      exact (neg_nonpos.mpr (by exact_mod_cast low)).trans (by exact_mod_cast high)
  · have second : ¬ y < 0 := not_lt.mpr ((not_lt.mp first).trans le)
    rw [if_neg first, if_neg second]
    exact_mod_cast floor_add_half_mono le

/-- **Rounding to two places keeps the order.** -/
theorem round2_mono {x y : ℚ} (le : x ≤ y) : round2 x ≤ round2 y := by
  have scaled : round (x * 100) ≤ round (y * 100) :=
    round_mono (mul_le_mul_of_nonneg_right le (by norm_num))
  exact div_le_div_of_nonneg_right scaled (by norm_num)

/-- The nearest whole number to a whole number is that number, on either side of zero. -/
theorem round_intCast (k : ℤ) : round (k : ℚ) = k := by
  have nearest (z : ℤ) : ((z : ℚ) + 1 / 2).floor = z := by
    show ⌊(z : ℚ) + 1 / 2⌋ = z
    rw [Int.floor_eq_iff]
    constructor <;> linarith
  show (if (k : ℚ) < 0 then -((-(k : ℚ) + 1 / 2).floor : ℚ) else ((k : ℚ) + 1 / 2).floor) = k
  by_cases negative : (k : ℚ) < 0
  · have away := nearest (-k)
    push_cast at away
    rw [if_pos negative, away]
    push_cast
    exact neg_neg _
  · rw [if_neg negative, nearest]

/-- What is rounded is a whole number. -/
theorem exists_round_eq (x : ℚ) : ∃ k : ℤ, round x = k := by
  by_cases negative : x < 0
  · exact ⟨-(-x + 1 / 2).floor, (if_pos negative).trans (Int.cast_neg _).symm⟩
  · exact ⟨(x + 1 / 2).floor, if_neg negative⟩

theorem abs_round_sub_le (x : ℚ) : |round x - x| ≤ 1 / 2 := by
  have near (y : ℚ) : |((y + 1 / 2).floor : ℚ) - y| ≤ 1 / 2 := by
    have low : ((y + 1 / 2).floor : ℚ) ≤ y + 1 / 2 := Int.floor_le _
    have high : y + 1 / 2 < ((y + 1 / 2).floor : ℚ) + 1 := Int.lt_floor_add_one _
    rw [abs_le]
    constructor <;> linarith
  show |(if x < 0 then -((-x + 1 / 2).floor : ℚ) else (x + 1 / 2).floor) - x| ≤ 1 / 2
  by_cases negative : x < 0
  · rw [if_pos negative, ← abs_neg]
    have mirrored : -(-((-x + 1 / 2).floor : ℚ) - x) = (-x + 1 / 2).floor - -x := by ring
    rw [mirrored]
    exact near (-x)
  · rw [if_neg negative]
    exact near x

/-- **Rounding to two places moves a number by half a hundredth at most.** -/
theorem abs_round2_sub_le (x : ℚ) : |round2 x - x| ≤ 1 / 200 := by
  have near := abs_round_sub_le (x * (100 : ℕ))
  have scaled : round2 x - x = (round (x * (100 : ℕ)) - x * (100 : ℕ)) / 100 := by
    show round (x * (100 : ℕ)) / (100 : ℕ) - x = _
    push_cast
    ring
  rw [scaled, abs_div, abs_of_pos (by norm_num : (0 : ℚ) < 100), div_le_iff₀ (by norm_num)]
  linarith

/-- **Rounding to two places leaves a number with two places alone.** -/
theorem round2_intCast_div (k : ℤ) : round2 ((k : ℚ) / 100) = k / 100 := by
  show round ((k : ℚ) / 100 * (100 : ℕ)) / (100 : ℕ) = k / 100
  push_cast
  rw [div_mul_cancel₀ _ (by norm_num), round_intCast]

theorem round2_round2 (x : ℚ) : round2 (round2 x) = round2 x := by
  obtain ⟨k, whole⟩ := exists_round_eq (x * (100 : ℕ))
  have rounded : round2 x = k / 100 := by
    show round (x * (100 : ℕ)) / (100 : ℕ) = _
    rw [whole]
    norm_num
  rw [rounded, round2_intCast_div]

/-- **Rounding leaves whole numbers alone.** -/
theorem round2_natCast (n : ℕ) : round2 (n : ℚ) = n := by
  have hundredths : (n : ℚ) = ((n * 100 : ℤ) : ℚ) / 100 := by
    push_cast
    exact (mul_div_cancel_right₀ _ (by norm_num)).symm
  rw [hundredths, round2_intCast_div]

end FlowAudit.Scalar
