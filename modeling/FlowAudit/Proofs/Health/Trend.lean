import FlowAudit.Health.Window
import FlowAudit.Proofs.Number.Order
import Mathlib.Algebra.BigOperators.Ring.List
import Mathlib.Algebra.Order.Field.Basic
import Mathlib.Tactic.Ring

/-!
# FlowAudit.Proofs.Health.Trend

**One rule for all trends.** A trend is decided by the means of the two halves of a series. The change in
percent has the first mean as its base, so a base of zero is a case of its own, and a negative one must not
turn the sign. Multiplied out there is no base and no case left: the means are the same or differ by less
than a twentieth of the first one (`Steady`), or the second half moved to the side on which its mean is
(`classifyTrend_eq`). In this form it is plain that the unit of the values does not matter
(`classifyTrend_map_mul`).
-/

namespace FlowAudit

/-! ### Means -/

/-- The mean of exact numbers; zero for the empty list. -/
def meanOf (values : List ℚ) : ℚ :=
  values.sum / values.length

theorem mean_eq_meanOf (values : List ℚ) : Scalar.mean values = meanOf values := by
  cases values with
  | nil => simp [Scalar.mean, meanOf]
  | cons x rest =>
      have sum := Scalar.foldl_add 0 (x :: rest)
      rw [zero_add] at sum
      exact congrArg (· / ((x :: rest).length : ℚ)) sum

theorem meanOf_map_mul (factor : ℚ) (values : List ℚ) :
    meanOf (values.map (factor * ·)) = factor * meanOf values := by
  rw [meanOf, List.sum_map_mul_left, List.map_id', List.length_map, mul_div_assoc, meanOf]

/-- The mean of the first half of a series, the shorter one if they differ. -/
def firstMean (values : List ℚ) : ℚ :=
  meanOf (values.take (values.length / 2))

/-- The mean of the second half of a series. -/
def secondMean (values : List ℚ) : ℚ :=
  meanOf (values.drop (values.length / 2))

/-! ### From one mean to another -/

/-- Two means are the same, or the second one differs from the first by less than five percent of it. -/
def Steady (first second : ℚ) : Prop :=
  first = second ∨ 100 * |second - first| < 5 * |first|

instance (first second : ℚ) : Decidable (Steady first second) :=
  inferInstanceAs (Decidable (_ ∨ _))

section Means

variable {first second : ℚ}

theorem steady_zero_iff : Steady 0 second ↔ second = 0 := by
  rw [Steady, sub_zero, abs_zero, mul_zero]
  refine ⟨fun steady => ?_, fun zero => Or.inl zero.symm⟩
  rcases steady with same | less
  · exact same.symm
  · have nonneg := abs_nonneg second
    linarith

/-- Without a base of zero, equal means differ by less than any share of it. -/
theorem steady_iff_of_ne_zero (base : first ≠ 0) :
    Steady first second ↔ 100 * |second - first| < 5 * |first| := by
  refine ⟨fun steady => ?_, Or.inr⟩
  rcases steady with rfl | less
  · rw [sub_self, abs_zero, mul_zero]
    exact mul_pos (by norm_num) (abs_pos.mpr base)
  · exact less

theorem steady_mul_iff {factor : ℚ} (pos : 0 < factor) :
    Steady (factor * first) (factor * second) ↔ Steady first second := by
  have scaled : 100 * |factor * second - factor * first| < 5 * |factor * first| ↔
      factor * (100 * |second - first|) < factor * (5 * |first|) := by
    rw [← mul_sub, abs_mul, abs_mul, abs_of_pos pos, mul_left_comm 100, mul_left_comm 5]
  rw [Steady, scaled, mul_lt_mul_iff_right₀ pos, mul_right_inj' pos.ne']
  rfl

/-- The change in percent of a base is small if the means are that near to each other. -/
theorem abs_change_lt_iff (base : first ≠ 0) :
    |(second - first) / |first| * 100| < 5 ↔ 100 * |second - first| < 5 * |first| := by
  have size := abs_pos.mpr base
  rw [abs_mul, abs_div, abs_abs, abs_of_pos (by norm_num : (0 : ℚ) < 100), div_mul_eq_mul_div,
    div_lt_iff₀ size, mul_comm |second - first|]

/-- The change in percent of a base, be it negative, is positive if the second mean is the greater one. -/
theorem change_pos_iff (base : first ≠ 0) :
    0 < (second - first) / |first| * 100 ↔ first < second := by
  rw [mul_pos_iff_of_pos_right (by norm_num), div_pos_iff_of_pos_right (abs_pos.mpr base), sub_pos]

end Means

/-! ### Trends -/

theorem Scalar.abs_eq_abs (x : ℚ) : Scalar.abs x = |x| := by
  show (if x < 0 then -x else x) = |x|
  split
  · next negative => exact (abs_of_neg negative).symm
  · next nonneg => exact (abs_of_nonneg (not_lt.mp nonneg)).symm

theorem Scalar.eq_iff_eq {x y : ℚ} : Scalar.eq x y = true ↔ x = y := by
  have le (a b : ℚ) : Scalar.le a b = true ↔ a ≤ b := decide_eq_true_iff
  rw [Scalar.eq, Bool.and_eq_true, le, le]
  exact antisymm_iff

/-- **One rule**: no trend with less than two values, none worth a word between steady means, and else
the side to which the mean moved. -/
theorem classifyTrend_eq (values : List ℚ) :
    classifyTrend values =
      if values.length < 2 then .insufficientData
      else if Steady (firstMean values) (secondMean values) then .stable
      else if firstMean values < secondMean values then .increasing
      else .decreasing := by
  unfold classifyTrend
  simp only [mean_eq_meanOf, Scalar.abs_eq_abs, Scalar.eq_iff_eq, Scalar.lt_iff, Scalar.ofNat_eq]
  show (if values.length < 2 then Trend.insufficientData
    else if firstMean values = 0 then _ else _) = _
  refine if_congr Iff.rfl rfl ?_
  by_cases base : firstMean values = 0
  · rw [if_pos base, base]
    exact if_congr steady_zero_iff.symm rfl rfl
  · rw [if_neg base]
    exact if_congr ((abs_change_lt_iff base).trans (steady_iff_of_ne_zero base).symm) rfl
      (if_congr (change_pos_iff base) rfl rfl)

/-- **The unit of the values does not matter.** -/
theorem classifyTrend_map_mul {factor : ℚ} (pos : 0 < factor) (values : List ℚ) :
    classifyTrend (values.map (factor * ·)) = classifyTrend values := by
  have first : firstMean (values.map (factor * ·)) = factor * firstMean values := by
    rw [firstMean, List.length_map, ← List.map_take, meanOf_map_mul, firstMean]
  have second : secondMean (values.map (factor * ·)) = factor * secondMean values := by
    rw [secondMean, List.length_map, ← List.map_drop, meanOf_map_mul, secondMean]
  rw [classifyTrend_eq, classifyTrend_eq, List.length_map, first, second]
  simp only [steady_mul_iff pos, mul_lt_mul_iff_right₀ pos]

/-- A trend says how two means stand to each other. -/
structure Tells (first second : ℚ) (trend : Trend) : Prop where
  stable : trend = .stable ↔ Steady first second
  increasing : trend = .increasing ↔ ¬ Steady first second ∧ first < second
  decreasing : trend = .decreasing ↔ ¬ Steady first second ∧ second < first

theorem tells_classifyTrend {values : List ℚ} (enough : 2 ≤ values.length) :
    Tells (firstMean values) (secondMean values) (classifyTrend values) := by
  rw [classifyTrend_eq, if_neg (Nat.not_lt.mpr enough)]
  by_cases steady : Steady (firstMean values) (secondMean values)
  · rw [if_pos steady]
    exact ⟨by simp [steady], by simp [steady], by simp [steady]⟩
  · rw [if_neg steady]
    have apart : firstMean values ≠ secondMean values := fun same => steady (Or.inl same)
    by_cases up : firstMean values < secondMean values
    · rw [if_pos up]
      exact ⟨by simp [steady], by simp [steady, up], by simp [up.not_gt]⟩
    · rw [if_neg up]
      have down := lt_of_le_of_ne (not_lt.mp up) apart.symm
      exact ⟨by simp [steady], by simp [up], by simp [steady, down]⟩

/-- **The trend points to where the second half moved**, with less than two values nowhere. That holds of
means of either sign and of zero, and whatever the unit of the values. -/
theorem trend_points (values : List ℚ) :
    (classifyTrend values = .insufficientData ↔ values.length < 2) ∧
    (2 ≤ values.length →
      Tells (firstMean values) (secondMean values) (classifyTrend values)) ∧
    ∀ factor : ℚ, 0 < factor →
      classifyTrend (values.map (factor * ·)) = classifyTrend values := by
  refine ⟨⟨fun short => ?_, fun short => ?_⟩, tells_classifyTrend,
    fun _ pos => classifyTrend_map_mul pos values⟩
  · by_contra enough
    rw [classifyTrend_eq, if_neg enough] at short
    split at short
    · cases short
    · split at short <;> cases short
  · rw [classifyTrend_eq, if_pos short]

/-- Three values below zero, the first of which is the first half. The mean rises by five percent, which
is just enough. -/
def rising : List ℚ := [-10, -9, -10]

theorem trend_points_rising :
    2 ≤ rising.length ∧ (0 : ℚ) < 1 / 3 ∧
      Tells (-10) (-19 / 2) (classifyTrend rising) ∧
      classifyTrend (rising.map (1 / 3 * ·)) = .increasing := by
  have enough : 2 ≤ rising.length := by decide
  have pos : (0 : ℚ) < 1 / 3 := by decide +kernel
  obtain ⟨-, tells, scale⟩ := trend_points rising
  have first : firstMean rising = -10 := by decide +kernel
  have second : secondMean rising = -19 / 2 := by decide +kernel
  have told := tells enough
  rw [first, second] at told
  refine ⟨enough, pos, told, (scale _ pos).trans (told.increasing.mpr ?_)⟩
  decide +kernel

end FlowAudit
