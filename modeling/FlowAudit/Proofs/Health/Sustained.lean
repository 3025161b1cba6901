import FlowAudit.Proofs.Health.Window
import FlowAudit.Proofs.Number.Quotient

/-!
# FlowAudit.Proofs.Health.Sustained

**Four fifths, exactly.** Whether a metric stayed over its threshold is asked of floating-point numbers:
a rounded ratio is compared with the number next to four fifths. The answer is nevertheless that of the
whole numbers, more than four samples in five (`sustainedShare_lt_ratio`). A ratio of at most four fifths
is not above a number that is not below them, and one of more than four fifths of less than 2^50 samples
exceeds them by so much that it reaches the next number (`sustained_iff`).

A higher threshold is exceeded by no more samples (`exceeding_antitone`), so what did not stay over the
lower one does not stay over it (`not_sustained_of_le`).
-/

namespace FlowAudit

open Number

variable {ν : Type} [Scalar ν] {samples : List (Sample ν)} {metric : Metric} {window : Span}
  {now : Instant}

/-! ### The share of four fifths -/

/-- The number next to four fifths, which is a little greater. -/
theorem isFull_sustainedShare : IsFull sustainedShare 7205759403792794 (-53) :=
  ⟨by decide, by decide, by decide, rfl⟩

/-- **Comparing the rounded ratio with the rounded share is comparing whole numbers.** -/
theorem sustainedShare_lt_ratio {exceeding total : ℕ} (most : exceeding ≤ total) (pos : 0 < total)
    (few : total < 2 ^ 50) :
    Scalar.lt sustainedShare (Scalar.ratio exceeding total : Float) ↔ 4 * total < 5 * exceeding := by
  rcases Nat.eq_zero_or_pos exceeding with rfl | some_exceed
  · have below : ¬ Scalar.lt sustainedShare (Scalar.ratio 0 total : Float) := by
      rw [lt_iff_place, isFull_sustainedShare.place, unpack_ratio_zero pos (by omega)]
      simp [place, Prod.Lex.toLex_lt_toLex]
    exact iff_of_false below (by omega)
  obtain ⟨m, e, rounded, nearby⟩ := isFull_ratio some_exceed (by omega) pos (by omega)
  have totalPos : (0 : ℚ) < total := by exact_mod_cast pos
  have unit : (2 : ℚ) ^ (-53 : ℤ) = 1 / 2 ^ 53 := by norm_num
  by_cases more : 4 * total < 5 * exceeding
  · refine iff_of_true (nearby.lt rounded isFull_sustainedShare (by decide) ?_) more
    have exact : (4 * total + 1 : ℚ) ≤ 5 * exceeding := by exact_mod_cast more
    have bound : (total : ℚ) ≤ 2 ^ 50 := by exact_mod_cast few.le
    rw [unit, le_div_iff₀ totalPos]
    push_cast
    linarith
  · refine iff_of_false (nearby.not_lt rounded isFull_sustainedShare ?_) more
    have exact : (5 * exceeding : ℚ) ≤ 4 * total := by exact_mod_cast not_lt.mp more
    rw [unit, div_le_iff₀ totalPos]
    push_cast
    linarith

theorem exceeding_le_total (samples : List (Sample ν)) (metric : Metric) (threshold : ν)
    (window : Span) (now : Instant) :
    (sustained samples metric threshold window now).exceeding ≤
      (sustained samples metric threshold window now).total := by
  rw [exceeding_eq, total_eq]
  exact List.countP_mono_left fun s _ both => ((Bool.and_eq_true _ _).mp both).2

/-- More than four samples in five. -/
theorem sustained_iff {samples : List (Sample Float)} (few : samples.length < 2 ^ 50)
    (metric : Metric) (threshold : Float) (window : Span) (now : Instant) :
    (sustained samples metric threshold window now).sustained ↔
      0 < (sustained samples metric threshold window now).total ∧
        4 * (sustained samples metric threshold window now).total <
          5 * (sustained samples metric threshold window now).exceeding := by
  have most := exceeding_le_total samples metric threshold window now
  have total : (sustained samples metric threshold window now).total < 2 ^ 50 := by
    rw [total_eq]
    exact lt_of_le_of_lt List.countP_le_length few
  obtain ⟨-, -, share, flag⟩ := sustained_counts samples metric threshold window now
  rw [flag, Bool.and_eq_true, decide_eq_true_iff]
  refine and_congr_right fun pos => ?_
  rw [share, if_neg (Nat.ne_of_gt pos)]
  exact sustainedShare_lt_ratio most pos total

/-! ### Higher thresholds -/

/-- **A higher threshold is exceeded by no more samples.** -/
theorem exceeding_antitone [Scalar.Ordered ν] {threshold higher : ν}
    (le : Scalar.le threshold higher) :
    (sustained samples metric higher window now).exceeding ≤
      (sustained samples metric threshold window now).exceeding := by
  rw [exceeding_eq, exceeding_eq]
  refine List.countP_mono_left fun s _ both => ?_
  rw [Bool.and_eq_true] at both ⊢
  exact ⟨Scalar.Ordered.lt_of_le_of_lt le both.1, both.2⟩

/-- With no more samples over its threshold a metric does not stay over it for longer. -/
theorem not_sustained_of_le {samples : List (Sample Float)} (few : samples.length < 2 ^ 50)
    {threshold higher : Float} (le : Scalar.le threshold higher)
    (not : (sustained samples metric threshold window now).sustained = false) :
    (sustained samples metric higher window now).sustained = false := by
  have fewer : (sustained samples metric higher window now).exceeding ≤
      (sustained samples metric threshold window now).exceeding := exceeding_antitone le
  have total : (sustained samples metric higher window now).total =
      (sustained samples metric threshold window now).total := by
    rw [total_eq, total_eq]
  rw [Bool.eq_false_iff, Ne, sustained_iff few] at not ⊢
  rw [total]
  omega

/-- **Four fifths of the samples of a window are not enough, and one more is.** A sample counts from the
start of the window on, which is as long ago as the window is long or the beginning of the calendar, up
to now; it exceeds a threshold that it is strictly above. A higher threshold is exceeded by no more
samples, and what did not stay over the lower one does not stay over it. -/
theorem sustained_four_fifths {samples : List (Sample Float)} (few : samples.length < 2 ^ 50)
    (metric : Metric) (threshold : Float) (window : Span) (now : Instant) :
    let check := sustained samples metric threshold window now
    (check.total =
        samples.countP fun s => s.timestamp.between (now.windowStart window) now) ∧
      (check.exceeding = samples.countP fun s => Scalar.lt threshold (metric.valueOf s) &&
        s.timestamp.between (now.windowStart window) now) ∧
      (check.sustained ↔ 0 < check.total ∧ 4 * check.total < 5 * check.exceeding) ∧
      (now.InCalendar → 0 ≤ window.nanos →
        (now.nano.val < 1000000000 ∨ window.nanos = 0 ∨ 1000000000 ≤ window.nanos) →
          (now.windowStart window).Opens now window.nanos) ∧
      ∀ higher, Scalar.le threshold higher →
        (sustained samples metric higher window now).exceeding ≤ check.exceeding ∧
          (check.sustained = false →
            (sustained samples metric higher window now).sustained = false) :=
  ⟨total_eq, exceeding_eq, sustained_iff few metric threshold window now,
    fun calendar nonneg plain => Instant.windowStart_opens calendar nonneg plain,
    fun _ le => ⟨exceeding_antitone le, not_sustained_of_le few le⟩⟩

/-- A sample of the first day of 1970 with a processor load and nothing else. -/
def loadAt (second : Nat) (load : Float) : Sample Float where
  timestamp := .onDay 0 second 0
  cpuPercent := load
  memoryPercent := 0
  memoryBytes := 0
  eventLoopLagMs := 0

/-- Five samples of one minute, after one that is a second too old, the last of them with less load. -/
def loads : List (Sample Float) :=
  [loadAt 0 90, loadAt 1 90, loadAt 20 90, loadAt 40 90, loadAt 50 90, loadAt 61 10]

theorem sustained_four_fifths_loads :
    loads.length < 2 ^ 50 ∧
      (sustained loads .cpu 5 (.ofMinutes 1) (.onDay 0 61 0)).sustained = true ∧
      (sustained loads .cpu 80 (.ofMinutes 1) (.onDay 0 61 0)).total = 5 ∧
      (sustained loads .cpu 80 (.ofMinutes 1) (.onDay 0 61 0)).exceeding = 4 ∧
      (sustained loads .cpu 80 (.ofMinutes 1) (.onDay 0 61 0)).sustained = false ∧
      ((Instant.onDay 0 61 0).windowStart (.ofMinutes 1)).Opens (.onDay 0 61 0) 60000000000 ∧
      Scalar.le (80 : Float) 85 ∧
      (sustained loads .cpu 85 (.ofMinutes 1) (.onDay 0 61 0)).sustained = false := by
  have few : loads.length < 2 ^ 50 := by decide
  obtain ⟨low, lowExceeding, lowRule, -, -⟩ :=
    sustained_four_fifths few .cpu 5 (.ofMinutes 1) (.onDay 0 61 0)
  obtain ⟨total, exceeding, rule, opens, raise⟩ :=
    sustained_four_fifths few .cpu 80 (.ofMinutes 1) (.onDay 0 61 0)
  have le : Scalar.le (80 : Float) 85 := by decide +kernel
  have all : (sustained loads .cpu 5 (.ofMinutes 1) (.onDay 0 61 0)).total = 5 ∧
      (sustained loads .cpu 5 (.ofMinutes 1) (.onDay 0 61 0)).exceeding = 5 := by
    rw [low, lowExceeding]
    decide +kernel
  have five : (sustained loads .cpu 80 (.ofMinutes 1) (.onDay 0 61 0)).total = 5 := by
    rw [total]
    decide +kernel
  have four : (sustained loads .cpu 80 (.ofMinutes 1) (.onDay 0 61 0)).exceeding = 4 := by
    rw [exceeding]
    decide +kernel
  have not : (sustained loads .cpu 80 (.ofMinutes 1) (.onDay 0 61 0)).sustained = false := by
    rw [Bool.eq_false_iff, Ne, rule, five, four]
    omega
  refine ⟨few, lowRule.mpr ?_, five, four, not, opens (by decide) (by decide) (by decide), le,
    (raise 85 le).2 not⟩
  rw [all.1, all.2]
  decide

end FlowAudit
