import FlowAudit.Proofs.Number.Order
import FlowAudit.Score.Quality
import Mathlib.Tactic.Ring

/-!
# FlowAudit.Proofs.Score.Penalty

**More issues never raise a score.** Over exact fractions, the penalty of a unit grows with the number of
its issues of each severity (`penalty_mono`), whatever its length, and its quality falls with the penalty
(`quality_antitone`).

The share of the cost that a unit bears lies between a half and the whole and falls with its length. So
what is not critical costs something but never more than seventy points, and it costs less in a longer
unit; with that the quality has its bounds (`quality_bounded_monotone`).
-/

namespace FlowAudit

open Scalar

/-! ### The share of the cost -/

theorem sizeFactor_eq (lines : Nat) :
    (sizeFactor lines : ℚ) = max (1 / 2 : ℚ) (min 1 (1 - (lines : ℚ) / 1000)) := by
  have range : (ratio 1 2 : ℚ) ≤ ofNat 1 := by
    show ((1 : ℕ) : ℚ) / (2 : ℕ) ≤ (1 : ℕ)
    norm_num
  unfold sizeFactor
  rw [clamp_eq range]
  show max (((1 : ℕ) : ℚ) / (2 : ℕ)) (min ((1 : ℕ) : ℚ) ((1 : ℕ) - (lines : ℚ) / (1000 : ℕ))) = _
  norm_num

theorem half_le_sizeFactor (lines : Nat) : (1 / 2 : ℚ) ≤ sizeFactor lines := by
  rw [sizeFactor_eq]
  exact le_max_left _ _

theorem sizeFactor_le_one (lines : Nat) : (sizeFactor lines : ℚ) ≤ 1 := by
  rw [sizeFactor_eq]
  exact max_le (by norm_num) (min_le_left _ _)

/-- The share of the cost that a unit bears is never negative. -/
theorem sizeFactor_nonneg (lines : Nat) : (0 : ℚ) ≤ sizeFactor lines :=
  le_trans (by norm_num) (half_le_sizeFactor lines)

/-- A longer unit bears no greater share. -/
theorem sizeFactor_antitone {lines lines' : Nat} (longer : lines ≤ lines') :
    (sizeFactor lines' : ℚ) ≤ sizeFactor lines := by
  have length : (lines : ℚ) / 1000 ≤ lines' / 1000 :=
    div_le_div_of_nonneg_right (Nat.cast_le.mpr longer) (by norm_num)
  rw [sizeFactor_eq, sizeFactor_eq]
  exact max_le_max_left _ (min_le_min_left _ (sub_le_sub_left length 1))

/-! ### The penalty -/

/-- The cost of issues up to a most grows with their number. -/
theorem capped_mono (cap each : Nat) {count count' : Nat} (more : count ≤ count') :
    atMost (ofNat cap : ℚ) (ofNat count * ofNat each) ≤
      atMost (ofNat cap) (ofNat count' * ofNat each) := by
  have cost : (ofNat count * ofNat each : ℚ) ≤ ofNat count' * ofNat each :=
    mul_le_mul_of_nonneg_right (Nat.cast_le.mpr more) (Nat.cast_nonneg each)
  rw [atMost_eq_min, atMost_eq_min]
  exact min_le_min_left _ cost

/-- **The penalty grows with the issues of each severity.** -/
theorem penalty_mono {critical critical' warning warning' info info' : Nat}
    (moreCritical : critical ≤ critical') (moreWarning : warning ≤ warning')
    (moreInfo : info ≤ info') (lines : Nat) :
    (penalty critical warning info lines : ℚ) ≤ penalty critical' warning' info' lines := by
  have factor := sizeFactor_nonneg lines
  have uncapped : (ofNat critical * ofNat 30 : ℚ) ≤ ofNat critical' * ofNat 30 :=
    mul_le_mul_of_nonneg_right (Nat.cast_le.mpr moreCritical) (Nat.cast_nonneg 30)
  have warnings := mul_le_mul_of_nonneg_right (capped_mono 50 10 moreWarning) factor
  have infos := mul_le_mul_of_nonneg_right (capped_mono 20 2 moreInfo) factor
  exact add_le_add (add_le_add uncapped warnings) infos

/-- What issues that are not critical cost a unit that bears the whole. -/
def fullCost (warning info : Nat) : ℚ :=
  min 50 ((warning : ℚ) * 10) + min 20 ((info : ℚ) * 2)

theorem fullCost_nonneg (warning info : Nat) : 0 ≤ fullCost warning info :=
  add_nonneg (le_min (by norm_num) (by positivity)) (le_min (by norm_num) (by positivity))

theorem fullCost_le (warning info : Nat) : fullCost warning info ≤ 70 :=
  (add_le_add (min_le_left _ _) (min_le_left _ _)).trans_eq (by norm_num)

/-- One issue costs two points at least. -/
theorem two_le_fullCost {warning info : Nat} (some_issue : 0 < warning ∨ 0 < info) :
    2 ≤ fullCost warning info := by
  have warnings : 0 ≤ min 50 ((warning : ℚ) * 10) := le_min (by norm_num) (by positivity)
  have infos : 0 ≤ min 20 ((info : ℚ) * 2) := le_min (by norm_num) (by positivity)
  unfold fullCost
  rcases some_issue with one | one
  · have cost : (1 : ℚ) ≤ warning := Nat.one_le_cast.mpr one
    have most : 2 ≤ min 50 ((warning : ℚ) * 10) := le_min (by norm_num) (by linarith)
    linarith
  · have cost : (1 : ℚ) ≤ info := Nat.one_le_cast.mpr one
    have most : 2 ≤ min 20 ((info : ℚ) * 2) := le_min (by norm_num) (by linarith)
    linarith

section Penalty

variable (critical warning info lines : Nat)

theorem penalty_eq : (penalty critical warning info lines : ℚ) =
    30 * critical + fullCost warning info * sizeFactor lines := by
  unfold penalty fullCost
  rw [atMost_eq_min, atMost_eq_min]
  simp only [ofNat_eq]
  push_cast
  ring

/-- Critical issues are paid for in full. -/
theorem critical_le_penalty : 30 * (critical : ℚ) ≤ penalty critical warning info lines := by
  have rest := mul_nonneg (fullCost_nonneg warning info) (sizeFactor_nonneg lines)
  rw [penalty_eq]
  linarith

theorem penalty_nonneg : (0 : ℚ) ≤ penalty critical warning info lines :=
  le_trans (by positivity) (critical_le_penalty critical warning info lines)

/-- Without critical issues a unit loses seventy points at most. -/
theorem penalty_le_of_uncritical : (penalty 0 warning info lines : ℚ) ≤ 70 := by
  have rest : fullCost warning info * sizeFactor lines ≤ 70 * 1 :=
    mul_le_mul (fullCost_le warning info) (sizeFactor_le_one lines) (sizeFactor_nonneg lines)
      (by norm_num)
  rw [penalty_eq, Nat.cast_zero]
  linarith

/-- No issue is free of cost. -/
theorem penalty_pos (some_issue : 0 < critical ∨ 0 < warning ∨ 0 < info) :
    (0 : ℚ) < penalty critical warning info lines := by
  rcases some_issue with severe | other
  · have cost : (1 : ℚ) ≤ critical := Nat.one_le_cast.mpr severe
    have bound := critical_le_penalty critical warning info lines
    linarith
  · have share := half_le_sizeFactor lines
    have cost := two_le_fullCost other
    have rest : 2 * (1 / 2) ≤ fullCost warning info * sizeFactor lines :=
      mul_le_mul cost share (by norm_num) (fullCost_nonneg warning info)
    have severe : (0 : ℚ) ≤ critical := Nat.cast_nonneg _
    rw [penalty_eq]
    linarith

/-- The penalty falls with the length. -/
theorem penalty_antitone {lines lines' : Nat} (longer : lines ≤ lines') :
    (penalty critical warning info lines' : ℚ) ≤ penalty critical warning info lines := by
  rw [penalty_eq, penalty_eq]
  exact add_le_add_right
    (mul_le_mul_of_nonneg_left (sizeFactor_antitone longer) (fullCost_nonneg warning info)) _

end Penalty

/-! ### The quality -/

/-- The penalty of a list of issues. -/
def issuePenalty (issues : List Issue) (lines : Nat) : ℚ :=
  penalty (countSeverity .critical issues) (countSeverity .warning issues)
    (countSeverity .info issues) lines

/-- Quality is what the penalty leaves of a hundred points. -/
theorem quality_eq (issues : List Issue) (lines : Nat) :
    (quality issues lines : ℚ) = max 0 (100 - issuePenalty issues lines) := by
  have range : (ofNat 0 : ℚ) ≤ ofNat 100 := Nat.cast_le.mpr (by decide)
  have nonneg : 0 ≤ issuePenalty issues lines := penalty_nonneg _ _ _ _
  have most : 100 - issuePenalty issues lines ≤ 100 := by linarith
  unfold quality
  rw [clamp_eq range]
  show max ((0 : ℕ) : ℚ) (min ((100 : ℕ) : ℚ) ((100 : ℕ) - issuePenalty issues lines)) = _
  rw [Nat.cast_zero, Nat.cast_ofNat, min_eq_right most]

/-- **Quality falls as issues are added**, whatever severities they have. -/
theorem quality_antitone {issues issues' : List Issue} (more : issues.Sublist issues')
    (lines : Nat) : (quality issues' lines : ℚ) ≤ quality issues lines := by
  have costs : issuePenalty issues lines ≤ issuePenalty issues' lines :=
    penalty_mono more.countP_le more.countP_le more.countP_le lines
  rw [quality_eq, quality_eq]
  exact max_le_max_left _ (sub_le_sub_left costs _)

/-- A list of issues has an issue of some severity. -/
theorem some_counted {issues : List Issue} (nonempty : issues ≠ []) :
    0 < countSeverity .critical issues ∨ 0 < countSeverity .warning issues ∨
      0 < countSeverity .info issues := by
  obtain ⟨issue, rest, rfl⟩ := List.exists_cons_of_ne_nil nonempty
  have counted : 0 < countSeverity issue.severity (issue :: rest) :=
    List.countP_pos_iff.mpr ⟨issue, List.mem_cons_self, by simp⟩
  cases severity : issue.severity with
  | critical => exact Or.inl (severity ▸ counted)
  | warning => exact Or.inr (Or.inl (severity ▸ counted))
  | info => exact Or.inr (Or.inr (severity ▸ counted))

/-- Full marks are only for units without issues. -/
theorem quality_eq_hundred_iff {issues : List Issue} {lines : Nat} :
    (quality issues lines : ℚ) = 100 ↔ issues = [] := by
  constructor
  · intro full
    by_contra nonempty
    have cost : 0 < issuePenalty issues lines := penalty_pos _ _ _ _ (some_counted nonempty)
    have less : max 0 (100 - issuePenalty issues lines) < 100 :=
      max_lt (by norm_num) (by linarith)
    rw [quality_eq] at full
    exact absurd full less.ne
  · rintro rfl
    have free : issuePenalty [] lines = 0 := by
      show (penalty 0 0 0 lines : ℚ) = 0
      rw [penalty_eq, fullCost]
      norm_num
    rw [quality_eq, free]
    norm_num

/-- **Quality is bounded and monotone.** It lies between zero and a hundred and is a hundred for the empty
list alone. The order of the issues plays no part; an issue of any kind, wherever it is added, never raises
it, and a greater length never lowers it. Every critical issue takes thirty points as long as there are
any, and all others together leave thirty. -/
theorem quality_bounded_monotone (issues : List Issue) (lines : Nat) :
    (0 ≤ (quality issues lines : ℚ) ∧ (quality issues lines : ℚ) ≤ 100) ∧
    (∀ issues', issues.Perm issues' → (quality issues' lines : ℚ) = quality issues lines) ∧
    (∀ before after issue, issues = before ++ after →
      (quality (before ++ issue :: after) lines : ℚ) ≤ quality issues lines) ∧
    (∀ lines', lines ≤ lines' → (quality issues lines : ℚ) ≤ quality issues lines') ∧
    ((quality issues lines : ℚ) = 100 ↔ issues = []) ∧
    (quality issues lines : ℚ) ≤ max 0 (100 - 30 * (countSeverity .critical issues : ℚ)) ∧
    ((∀ issue ∈ issues, issue.severity ≠ .critical) → 30 ≤ (quality issues lines : ℚ)) := by
  have nonneg : 0 ≤ issuePenalty issues lines := penalty_nonneg _ _ _ _
  refine ⟨⟨?_, ?_⟩, ?_, ?_, ?_, quality_eq_hundred_iff, ?_, ?_⟩
  · rw [quality_eq]
    exact le_max_left _ _
  · rw [quality_eq]
    exact max_le (by norm_num) (by linarith)
  · intro issues' same
    simp only [quality, countSeverity, same.countP_eq]
  · rintro before after issue rfl
    exact quality_antitone ((List.sublist_cons_self issue after).append_left before) lines
  · intro lines' longer
    have costs : issuePenalty issues lines' ≤ issuePenalty issues lines :=
      penalty_antitone _ _ _ longer
    rw [quality_eq, quality_eq]
    exact max_le_max_left _ (sub_le_sub_left costs _)
  · rw [quality_eq]
    exact max_le_max_left _ (sub_le_sub_left (critical_le_penalty _ _ _ _) _)
  · intro uncritical
    have none_critical : countSeverity .critical issues = 0 := by
      rw [countSeverity, List.countP_eq_zero]
      simpa using uncritical
    have cost : issuePenalty issues lines ≤ 70 := by
      rw [issuePenalty, none_critical]
      exact penalty_le_of_uncritical _ _ _
    rw [quality_eq]
    exact le_max_of_le_right (by linarith)

/-- A log call and an unused binding. -/
def callAndBinding : List Issue :=
  [.located .consoleLog 1 "", .located .unusedVariable 2 ""]

/-- The two cost the same the other way around, more with a breakpoint between them, and less in a long
unit. -/
theorem quality_bounded_monotone_two_issues :
    callAndBinding.Perm callAndBinding.reverse ∧
    callAndBinding = callAndBinding.take 1 ++ callAndBinding.drop 1 ∧ 10 ≤ 800 ∧
    (∀ issue ∈ callAndBinding, issue.severity ≠ .critical) ∧
    (quality callAndBinding.reverse 10 : ℚ) = quality callAndBinding 10 ∧
    (quality (callAndBinding.take 1 ++
      .located .debuggerStatement 2 "" :: callAndBinding.drop 1) 10 : ℚ) ≤ quality callAndBinding 10 ∧
    (quality callAndBinding 10 : ℚ) ≤ quality callAndBinding 800 ∧
    30 ≤ (quality callAndBinding 10 : ℚ) := by
  have same : callAndBinding.Perm callAndBinding.reverse := (List.reverse_perm _).symm
  have uncritical : ∀ issue ∈ callAndBinding, issue.severity ≠ .critical := by decide
  obtain ⟨-, reordered, added, longer, -, -, floor⟩ := quality_bounded_monotone callAndBinding 10
  exact ⟨same, rfl, by decide, uncritical, reordered _ same, added _ _ _ rfl, longer 800 (by decide),
    floor uncritical⟩

end FlowAudit
