import FlowAudit.Proofs.Health.Statistics
import FlowAudit.Proofs.Time.Window

/-!
# FlowAudit.Proofs.Health.Window

**The statistics of a window do not depend on the order in which its samples came.** What lies in a
window is a matter of each sample alone (`mem_inWindow`), so rearranged samples give a rearranged window
(`inWindow_perm`), and counts are those over all samples (`total_eq`, `exceeding_eq`). Where no two
samples are of one time, the window is sorted strictly, and there is only one such list
(`inWindow_eq_of_perm`): sums from left to right and the halves of a trend are taken over the same
series.

Samples of one time stay as they came, so a sum over them may be rounded differently; what is counted
is still the same.
-/

namespace FlowAudit

variable {ν : Type} {samples samples' : List (Sample ν)} {window : Span} {now : Instant}

/-! ### The samples of a window -/

theorem inWindow_perm_filter (samples : List (Sample ν)) (window : Span) (now : Instant) :
    (inWindow samples window now).Perm
      (samples.filter fun s => s.timestamp.between (now.windowStart window) now) :=
  List.mergeSort_perm _ _

/-- Both ends of a window belong to it. -/
theorem mem_inWindow {s : Sample ν} : s ∈ inWindow samples window now ↔
    s ∈ samples ∧ now.windowStart window ≤ s.timestamp ∧ s.timestamp ≤ now := by
  rw [(inWindow_perm_filter samples window now).mem_iff, List.mem_filter, Instant.between_iff]

/-- **Rearranged samples give a rearranged window.** -/
theorem inWindow_perm (same : samples.Perm samples') (window : Span) (now : Instant) :
    (inWindow samples window now).Perm (inWindow samples' window now) :=
  ((inWindow_perm_filter samples window now).trans (same.filter _)).trans
    (inWindow_perm_filter samples' window now).symm

theorem inOrder_inWindow (samples : List (Sample ν)) (window : Span) (now : Instant) :
    InOrder (inWindow samples window now) := by
  have trans (a b c : Sample ν) : decide (a.timestamp ≤ b.timestamp) →
      decide (b.timestamp ≤ c.timestamp) → decide (a.timestamp ≤ c.timestamp) :=
    fun first second => decide_eq_true
      (Instant.le_trans (of_decide_eq_true first) (of_decide_eq_true second))
  have total (a b : Sample ν) :
      decide (a.timestamp ≤ b.timestamp) || decide (b.timestamp ≤ a.timestamp) := by
    rw [Bool.or_eq_true, decide_eq_true_iff, decide_eq_true_iff]
    exact Int.le_total a.timestamp.key b.timestamp.key
  exact (List.pairwise_mergeSort trans total _).imp of_decide_eq_true

/-! ### Samples of different times -/

/-- No two samples of the list are of one time. -/
def Distinct (samples : List (Sample ν)) : Prop :=
  (samples.map Sample.timestamp).Nodup

theorem Distinct.inWindow (distinct : Distinct samples) (window : Span) (now : Instant) :
    Distinct (inWindow samples window now) := by
  have perm := (inWindow_perm_filter samples window now).map Sample.timestamp
  exact perm.nodup_iff.mpr (distinct.sublist (List.filter_sublist.map Sample.timestamp))

/-- **A window of different times is sorted strictly.** -/
theorem Distinct.ascending (distinct : Distinct samples) (window : Span) (now : Instant) :
    (FlowAudit.inWindow samples window now).Pairwise fun a b => a.timestamp < b.timestamp := by
  have different := List.pairwise_map.mp (distinct.inWindow window now)
  refine (different.and (inOrder_inWindow samples window now)).imp fun both => ?_
  by_contra notBefore
  exact both.1 (Instant.le_antisymm both.2 (Instant.not_lt.mp notBefore))

/-- **There is one way to put samples of different times into order.** -/
theorem inWindow_eq_of_perm (distinct : Distinct samples) (same : samples.Perm samples')
    (window : Span) (now : Instant) : inWindow samples' window now = inWindow samples window now := by
  have distinct' : Distinct samples' := (same.map Sample.timestamp).nodup_iff.mp distinct
  refine List.Perm.eq_of_pairwise (fun a b _ _ before after => ?_) (distinct'.ascending window now)
    (distinct.ascending window now) (inWindow_perm same window now).symm
  exact absurd (Instant.le_antisymm (Int.le_of_lt before) (Int.le_of_lt after) ▸ before)
    (Int.lt_irrefl _)

/-! ### Counts -/

variable [Scalar ν] {metric : Metric} {threshold : ν}

/-- What a check says of the values in its window: how many there are, how many of them are above the
threshold, and a share that is made of these two counts alone. -/
theorem sustained_counts (samples : List (Sample ν)) (metric : Metric) (threshold : ν) (window : Span)
    (now : Instant) :
    let values := (inWindow samples window now).map metric.valueOf
    let check := sustained samples metric threshold window now
    check.total = values.length ∧ check.exceeding = values.countP (Scalar.lt threshold) ∧
      check.ratio =
        (if check.total = 0 then Scalar.ofNat 0 else Scalar.ratio check.exceeding check.total) ∧
      check.sustained = (decide (0 < check.total) && Scalar.lt sustainedShare check.ratio) := by
  unfold sustained
  dsimp only
  generalize (inWindow samples window now).map metric.valueOf = values
  by_cases none : values.length = 0
  · rw [if_pos none, List.length_eq_zero_iff.mp none]
    exact ⟨rfl, rfl, rfl, rfl⟩
  · have some_value : 0 < values.length := Nat.pos_of_ne_zero none
    rw [if_neg none, decide_eq_true some_value, Bool.true_and, if_neg none]
    exact ⟨rfl, rfl, rfl, rfl⟩

/-- The samples that count are those of the window. -/
theorem total_eq : (sustained samples metric threshold window now).total =
    samples.countP fun s => s.timestamp.between (now.windowStart window) now := by
  rw [(sustained_counts samples metric threshold window now).1, List.length_map,
    (inWindow_perm_filter samples window now).length_eq, List.countP_eq_length_filter]

theorem exceeding_eq : (sustained samples metric threshold window now).exceeding =
    samples.countP fun s => Scalar.lt threshold (metric.valueOf s) &&
      s.timestamp.between (now.windowStart window) now := by
  rw [(sustained_counts samples metric threshold window now).2.1, List.countP_map,
    (inWindow_perm_filter samples window now).countP_eq, List.countP_filter]
  rfl

/-! ### Rearranged samples -/

/-- What checks of two lists of samples agree in that are rearrangements of each other: everything but
the mean. -/
structure SameCounts (samples samples' : List (Sample ν)) (metric : Metric) (threshold : ν)
    (window : Span) (now : Instant) : Prop where
  total : (sustained samples' metric threshold window now).total =
    (sustained samples metric threshold window now).total
  exceeding : (sustained samples' metric threshold window now).exceeding =
    (sustained samples metric threshold window now).exceeding
  ratio : (sustained samples' metric threshold window now).ratio =
    (sustained samples metric threshold window now).ratio
  sustained : (sustained samples' metric threshold window now).sustained =
    (sustained samples metric threshold window now).sustained

theorem sameCounts_of_perm (same : samples.Perm samples') (metric : Metric) (threshold : ν)
    (window : Span) (now : Instant) : SameCounts samples samples' metric threshold window now := by
  obtain ⟨-, -, share, flag⟩ := sustained_counts samples metric threshold window now
  obtain ⟨-, -, share', flag'⟩ := sustained_counts samples' metric threshold window now
  have total : (sustained samples' metric threshold window now).total =
      (sustained samples metric threshold window now).total := by
    rw [total_eq, total_eq, same.countP_eq]
  have exceeding : (sustained samples' metric threshold window now).exceeding =
      (sustained samples metric threshold window now).exceeding := by
    rw [exceeding_eq, exceeding_eq, same.countP_eq]
  have ratio : (sustained samples' metric threshold window now).ratio =
      (sustained samples metric threshold window now).ratio := by
    rw [share, share', total, exceeding]
  exact ⟨total, exceeding, ratio, by rw [flag, flag', total, ratio]⟩

/-- **The order in which samples came makes no difference**: none to what is counted, and none at all if
no two samples are of one time. -/
theorem statistics_perm (same : samples.Perm samples') :
    (Distinct samples → ∀ window now,
      inWindow samples' window now = inWindow samples window now ∧
      (∀ s, s ∈ inWindow samples window now ↔
        s ∈ samples ∧ now.windowStart window ≤ s.timestamp ∧ s.timestamp ≤ now) ∧
      (inWindow samples window now).Pairwise (fun a b => a.timestamp < b.timestamp) ∧
      averages samples' window now = averages samples window now ∧
      ∀ metric, trend samples' metric window now = trend samples metric window now ∧
        ∀ threshold, sustained samples' metric threshold window now =
          sustained samples metric threshold window now) ∧
    ∀ metric threshold window now, SameCounts samples samples' metric threshold window now := by
  refine ⟨fun distinct window now => ?_, sameCounts_of_perm same⟩
  have equal := inWindow_eq_of_perm distinct same window now
  refine ⟨equal, fun _ => mem_inWindow, distinct.ascending window now, ?_, fun metric => ⟨?_, ?_⟩⟩
  · rw [averages, averages, equal]
  · rw [trend, trend, equal]
  · intro threshold
    rw [sustained, sustained, equal]

/-- Samples in the order of time, one minute long. -/
def timelySamples : List (Sample ℚ) :=
  [Store.loadSample 0 1, Store.loadSample 30 4, Store.loadSample 60 2]

/-- The same samples, the last of which came first. -/
def lateSamples : List (Sample ℚ) :=
  [Store.loadSample 60 2, Store.loadSample 0 1, Store.loadSample 30 4]

/-- The samples of a minute, both ends included, whose load grows although the first of them that came
is not the least. -/
theorem statistics_perm_late :
    timelySamples.Perm lateSamples ∧ Distinct timelySamples ∧
      inWindow lateSamples (.ofMinutes 1) (.onDay 0 60 0) = timelySamples ∧
      trend lateSamples .cpu (.ofMinutes 1) (.onDay 0 60 0) = .increasing ∧
      SameCounts timelySamples lateSamples .cpu 1 (.ofMinutes 1) (.onDay 0 60 0) := by
  have perm : timelySamples.Perm lateSamples := by decide
  have distinct : Distinct timelySamples := by
    unfold Distinct
    decide
  obtain ⟨whole, counts⟩ := statistics_perm perm
  obtain ⟨same, -, -, -, metrics⟩ := whole distinct (.ofMinutes 1) (.onDay 0 60 0)
  have order : InOrder timelySamples := by decide
  have window : inWindow timelySamples (.ofMinutes 1) (.onDay 0 60 0) = timelySamples := by
    rw [inWindow_of_inOrder order]
    rfl
  refine ⟨perm, distinct, same.trans window, (metrics .cpu).1.trans ?_, counts _ _ _ _⟩
  rw [trend, window]
  decide +kernel

end FlowAudit
