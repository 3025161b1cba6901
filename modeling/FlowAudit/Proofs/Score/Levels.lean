import FlowAudit.Proofs.Pass.Retry
import FlowAudit.Proofs.Report.Group
import FlowAudit.Proofs.Rule.Catalog
import FlowAudit.Proofs.Score.Penalty
import Mathlib.Data.List.Forall2

/-!
# FlowAudit.Proofs.Score.Levels

**A stricter level improves no score** (`stricter_level_no_better`). What it adds to a unit are issues
(`detect_sublist`), and issues only ever cost; what changes of the record of a unit is listed in
`UnitRecord.Raised`. Groups are made from the same units, so what the units have in common passes to
their record (`aggregateGroup_raised`): every count grows and the mean of the qualities falls. The cap
of a group with a critical issue may come in only at the stricter level, which makes its quality fall all
the more.

Scores are read over exact fractions. Times play no part, so the two scans may happen at any times, and
into any stores.
-/

namespace FlowAudit

open Scalar

/-! ### Counts of kinds -/

/-- How often a kind occurs, by the counts. A kind that is not listed does not occur. -/
def KindCounts.count (counts : KindCounts) (kind : Kind) : Nat :=
  (counts.find? (·.1 = kind)).elim 0 Prod.snd

/-- Leaving out kinds that do not occur changes no count. -/
theorem KindCounts.count_filter_map (occurs : Kind → Nat) (kind : Kind) {kinds : List Kind}
    (listed : kind ∈ kinds ∨ occurs kind = 0) :
    KindCounts.count ((kinds.map fun k => (k, occurs k)).filter (·.2 ≠ 0)) kind = occurs kind := by
  induction kinds with
  | nil => exact (listed.resolve_left List.not_mem_nil).symm
  | cons k rest ih =>
      rw [List.map_cons, List.filter_cons]
      by_cases absent : occurs k = 0
      · rw [if_neg (by simpa using absent)]
        refine ih ?_
        rcases listed with here | nowhere
        · rcases List.mem_cons.mp here with rfl | later
          · exact Or.inr absent
          · exact Or.inl later
        · exact Or.inr nowhere
      · rw [if_pos (by simpa using absent)]
        unfold KindCounts.count at ih ⊢
        by_cases same : k = kind
        · rw [List.find?_cons_of_pos (by simpa using same), same]
          rfl
        · rw [List.find?_cons_of_neg (by simpa using same)]
          refine ih (listed.imp_left fun here => ?_)
          exact (List.mem_cons.mp here).resolve_left (Ne.symm same)

/-- The counts of issues count the issues of every kind. -/
theorem KindCounts.count_ofIssues (issues : List Issue) (kind : Kind) :
    (KindCounts.ofIssues issues).count kind = issues.countP (·.kind == kind) := by
  have listed : kind ∈ Kind.all := by cases kind <;> decide
  exact count_filter_map (fun k => issues.countP fun issue : Issue => issue.kind == k) kind
    (Or.inl listed)

/-! ### What a stricter level may change -/

/-- A record of a unit and the one at a stricter level. -/
structure UnitRecord.Raised (low high : UnitRecord ℚ) : Prop where
  id : high.id = low.id
  groupId : high.groupId = low.groupId
  name : high.name = low.name
  linesOfCode : high.linesOfCode = low.linesOfCode
  complexityScore : high.complexityScore = low.complexityScore
  issues : low.issues.Sublist high.issues
  kinds : ∀ kind, low.issues.countP (·.kind == kind) ≤ high.issues.countP (·.kind == kind) :=
    fun _ => List.Sublist.countP_le issues
  qualityScore : high.qualityScore ≤ low.qualityScore

/-- A record of a group and the one at a stricter level. -/
structure GroupRecord.Raised (low high : GroupRecord ℚ) : Prop where
  id : high.id = low.id
  name : high.name = low.name
  totalUnits : high.totalUnits = low.totalUnits
  complexityScore : high.complexityScore = low.complexityScore
  totalIssues : low.totalIssues ≤ high.totalIssues
  nodesWithIssues : low.nodesWithIssues ≤ high.nodesWithIssues
  nodesWithCriticalIssues : low.nodesWithCriticalIssues ≤ high.nodesWithCriticalIssues
  issueTypes : ∀ kind, low.issueTypes.count kind ≤ high.issueTypes.count kind
  qualityScore : high.qualityScore ≤ low.qualityScore

/-- The report of a pass and that of one at a stricter level. -/
structure PassReport.Raised (low high : PassReport ℚ) : Prop where
  groupsSeen : high.groupsSeen = low.groupsSeen
  orphanedUnits : high.orphanedUnits = low.orphanedUnits
  failedUnits : high.failedUnits = low.failedUnits
  units : List.Forall₂ UnitRecord.Raised (low.units.map UnitOutcome.record)
    (high.units.map UnitOutcome.record)
  groups : List.Forall₂ GroupRecord.Raised low.groups high.groups

/-! ### Units -/

/-- A stricter level finds all that a lower one finds, in the same order. -/
theorem detect_sublist {low high : Level} (upward : low.number ≤ high.number)
    (source : List Char) : (detect low source).Sublist (detect high source) := by
  rw [detect_eq_filter_strict low, detect_eq_filter_strict high]
  refine List.monotone_filter_right _ fun issue enabled => ?_
  exact decide_eq_true ((of_decide_eq_true enabled).trans upward)

/-- **A unit at a stricter level** has more issues, and no better a score. -/
theorem SourceUnit.analyze_raised {low high : Level} (upward : low.number ≤ high.number)
    (unit : SourceUnit) (now now' : Instant) :
    (unit.analyze low now : UnitRecord ℚ).Raised (unit.analyze high now') where
  id := rfl
  groupId := rfl
  name := rfl
  linesOfCode := rfl
  complexityScore := rfl
  issues := detect_sublist upward _
  qualityScore := round2_mono (quality_antitone (detect_sublist upward _) _)

/-! ### Groups -/

section Group

variable {low high : List (UnitRecord ℚ)}

/-- A unit counts for a test that issues can only bring about. -/
theorem countP_raised {test : UnitRecord ℚ → Bool}
    (keeps : ∀ a b : UnitRecord ℚ, a.Raised b → test a = true → test b = true)
    (raised : List.Forall₂ UnitRecord.Raised low high) : low.countP test ≤ high.countP test := by
  induction raised with
  | nil => exact Nat.le_refl _
  | @cons a b rest rest' head _ ih =>
      rw [List.countP_cons, List.countP_cons]
      by_cases first : test a = true
      · rw [if_pos first, if_pos (keeps a b head first)]
        exact Nat.add_le_add_right ih 1
      · rw [if_neg first]
        exact Nat.le_add_right_of_le ih

theorem issues_raised (raised : List.Forall₂ UnitRecord.Raised low high) :
    (low.flatMap UnitRecord.issues).Sublist (high.flatMap UnitRecord.issues) := by
  induction raised with
  | nil => exact List.Sublist.refl _
  | cons head _ ih =>
      rw [List.flatMap_cons, List.flatMap_cons]
      exact head.issues.append ih

theorem totalOf_issueCount {ν : Type} (units : List (UnitRecord ν)) :
    totalOf UnitRecord.issueCount units = (units.flatMap UnitRecord.issues).length := by
  induction units with
  | nil => rfl
  | cons unit rest ih => rw [totalOf, ih, List.flatMap_cons, List.length_append]; rfl

theorem hasIssues_raised {a b : UnitRecord ℚ} (raised : a.Raised b)
    (some_issue : (!a.issues.isEmpty) = true) : (!b.issues.isEmpty) = true := by
  rw [Bool.not_eq_true', ← Bool.not_eq_true, List.isEmpty_iff] at some_issue ⊢
  intro none_left
  have none_before := raised.issues
  rw [none_left, List.sublist_nil] at none_before
  exact some_issue none_before

theorem hasCritical_raised {a b : UnitRecord ℚ} (raised : a.Raised b)
    (critical : a.hasCritical = true) : b.hasCritical = true := by
  obtain ⟨issue, member, severe⟩ := List.any_eq_true.mp critical
  exact List.any_eq_true.mpr ⟨issue, raised.issues.subset member, severe⟩

/-- The quality of a group before it is rounded: the mean of its units, capped where one of them has a
critical issue. -/
def cappedQuality (units : List (UnitRecord ℚ)) : ℚ :=
  let mean := sum (units.map UnitRecord.qualityScore) / ofNat units.length
  if units.countP UnitRecord.hasCritical > 0 then atMost criticalCap mean else mean

/-- With the mean falls the capped mean, wherever the cap applies. -/
theorem cappedQuality_raised (raised : List.Forall₂ UnitRecord.Raised low high) :
    cappedQuality high ≤ cappedQuality low := by
  have means : sum (high.map UnitRecord.qualityScore) / ofNat high.length ≤
      sum (low.map UnitRecord.qualityScore) / ofNat low.length := by
    rw [raised.length_eq]
    exact div_le_div_of_nonneg_right (sum_le_sum (fun _ _ h => h.qualityScore) raised)
      (Nat.cast_nonneg _)
  have critical := countP_raised (fun _ _ => hasCritical_raised) raised
  simp only [cappedQuality, atMost_eq_min]
  by_cases capped : low.countP UnitRecord.hasCritical > 0
  · rw [if_pos capped, if_pos (Nat.lt_of_lt_of_le capped critical)]
    exact min_le_min_left _ means
  · rw [if_neg capped]
    -- The cap that only the stricter level brings in lowers the quality once more.
    split
    · exact (min_le_right _ _).trans means
    · exact means

/-- **A group at a stricter level** has larger counts, and no better a score. -/
theorem aggregateGroup_raised (id name : String) (now now' : Instant)
    (raised : List.Forall₂ UnitRecord.Raised low high) :
    List.Forall₂ GroupRecord.Raised (aggregateGroup id name low now).toList
      (aggregateGroup id name high now').toList := by
  have complexity : high.map UnitRecord.complexityScore = low.map UnitRecord.complexityScore := by
    clear id name
    induction raised with
    | nil => rfl
    | cons head _ ih => rw [List.map_cons, List.map_cons, head.complexityScore, ih]
  have quality := round2_mono (cappedQuality_raised raised)
  have length := raised.length_eq
  have issues := issues_raised raised
  have withIssues := countP_raised (fun _ _ => hasIssues_raised) raised
  have critical := countP_raised (fun _ _ => hasCritical_raised) raised
  cases raised with
  | nil => exact .nil
  | cons head rest =>
      refine .cons ?_ .nil
      exact
        { id := rfl
          name := rfl
          totalUnits := length.symm
          complexityScore := by
            show round2 (sum _ / ofNat _) = round2 (sum _ / ofNat _)
            rw [complexity, length]
          totalIssues := by
            show totalOf _ _ ≤ totalOf _ _
            rw [totalOf_issueCount, totalOf_issueCount]
            exact issues.length_le
          nodesWithIssues := withIssues
          nodesWithCriticalIssues := critical
          issueTypes := fun kind => by
            show (KindCounts.ofIssues _).count kind ≤ (KindCounts.ofIssues _).count kind
            rw [KindCounts.count_ofIssues, KindCounts.count_ofIssues]
            exact issues.countP_le
          qualityScore := by
            show atLeast _ (round2 (cappedQuality _)) ≤ atLeast _ (round2 (cappedQuality _))
            rw [atLeast_eq_max, atLeast_eq_max]
            exact max_le_max_left _ quality }

theorem unitsOf_raised (id : String) (raised : List.Forall₂ UnitRecord.Raised low high) :
    List.Forall₂ UnitRecord.Raised (unitsOf low id) (unitsOf high id) :=
  List.rel_filter (fun a b h => by simp [h.groupId]) raised

theorem groupRecords_raised (now now' : Instant) (groups : List GroupInfo)
    (raised : List.Forall₂ UnitRecord.Raised low high) :
    List.Forall₂ GroupRecord.Raised (groupRecords low now groups)
      (groupRecords high now' groups) := by
  induction groups with
  | nil => exact .nil
  | cons group later ih =>
      rw [groupRecords_cons, groupRecords_cons]
      by_cases again : group.id ∈ later.map GroupInfo.id
      · rw [if_pos again, if_pos again]
        exact ih
      · rw [if_neg again, if_neg again]
        exact List.rel_append
          (aggregateGroup_raised group.id group.name now now' (unitsOf_raised group.id raised)) ih

end Group

/-! ### Passes -/

section Pass

variable {low high : Level} (fails : SourceUnit → Option String)
  (clock clock' : SourceUnit → Instant) (groups : List GroupInfo) (units : List SourceUnit)

/-- The same units are analysed at both levels. -/
theorem analysedUnits_raised (upward : low.number ≤ high.number) :
    List.Forall₂ UnitRecord.Raised
      (analysedUnits groups (analysisAt low (attemptsBy fails clock)) units)
      (analysedUnits groups (analysisAt high (attemptsBy fails clock')) units) := by
  unfold analysedUnits
  induction units.filter (listed groups) with
  | nil => exact .nil
  | cons unit rest ih =>
      rw [List.filterMap_cons, List.filterMap_cons, analysisAt, analysisAt, attemptsBy, attemptsBy]
      cases fails unit with
      | some reason => exact ih
      | none => exact .cons (unit.analyze_raised upward _ _) ih

/-- The same analyses fail at both levels. -/
theorem analysisFailures_level :
    analysisFailures groups (analysisAt (ν := ℚ) high (attemptsBy fails clock')) units =
      analysisFailures groups (analysisAt (ν := ℚ) low (attemptsBy fails clock)) units := by
  rw [analysisFailures, analysisFailures]
  refine List.filterMap_congr fun unit _ => ?_
  unfold analysisFailure analysisAt attemptsBy
  cases fails unit <;> rfl

variable {ρ : Type} [Stored ρ (UnitRecord ℚ)] [Stored ρ (GroupRecord ℚ)]

omit [Stored ρ (GroupRecord ℚ)] in
/-- **A pass at a stricter level** sees the same groups, units and orphans, and scores none better. -/
theorem passReport_raised (upward : low.number ≤ high.number) (now now' : Instant)
    (store store' : Store ρ) :
    (passReport low now groups (analysisAt low (attemptsBy fails clock)) units store).Raised
      (passReport high now' groups (analysisAt high (attemptsBy fails clock')) units store') := by
  have records := analysedUnits_raised fails clock clock' groups units upward
  exact
    { groupsSeen := by
        show groups.length = groups.length
        rfl
      orphanedUnits := by
        show 0 + units.countP (fun unit => !listed groups unit) = 0 + units.countP _
        rfl
      failedUnits := by
        show [] ++ analysisFailures _ _ _ = [] ++ analysisFailures _ _ _
        exact congrArg ([] ++ ·) (analysisFailures_level fails clock clock' groups units)
      units := by
        show List.Forall₂ _ ((unitOutcomes _ _).map _) ((unitOutcomes _ _).map _)
        rw [unitOutcomes_records, unitOutcomes_records]
        exact records
      groups := by
        show List.Forall₂ _ (groupRecords _ _ _) (groupRecords _ _ _)
        exact groupRecords_raised now now' groups records }

/-- **A stricter level improves no score.** The record of a unit at the stricter level has the same size
and complexity, at least as many issues of each kind, and a quality that is not above the other. Scans of
one export at the two levels have the same groups, orphans and units; every group has at least as many
issues of each kind and altogether and at least as many units with issues and with critical ones, and a
quality that is not above the other. -/
theorem stricter_level_no_better (upward : low.number ≤ high.number) :
    (∀ (unit : SourceUnit) (now now' : Instant),
      (unit.analyze low now : UnitRecord ℚ).Raised (unit.analyze high now')) ∧
    ∀ (fails : SourceUnit → Option String) (clock clock' : SourceUnit → Instant)
      (groups : List GroupInfo) (units : List SourceUnit) (now now' : Instant)
      (store store' : Store ρ), ∃ report report' : PassReport ℚ,
      (scanWith low now (analysisAt low (attemptsBy fails clock))
          { groups := .ok groups, units := .ok units } .idle).run store =
        ((.ok report, .idle), store.afterReport report) ∧
      (scanWith high now' (analysisAt high (attemptsBy fails clock'))
          { groups := .ok groups, units := .ok units } .idle).run store' =
        ((.ok report', .idle), store'.afterReport report') ∧
      report.Raised report' := by
  refine ⟨fun unit now now' => unit.analyze_raised upward now now', ?_⟩
  intro fails clock clock' groups units now now' store store'
  exact ⟨_, _, run_scanWith_of_ok low groups units now _ store,
    run_scanWith_of_ok high groups units now' _ store',
    passReport_raised fails clock clock' groups units upward now now' store store'⟩

/-- A unit that stops at a breakpoint, which is critical and which the lowest level does not report. -/
def breakpointUnit : SourceUnit := ⟨"flow", "node", "Node", "debugger;"⟩

/-- The lowest level against the strictest one a day later. Only the latter finds the breakpoint, and
with it the cap on the group comes in. -/
theorem stricter_level_no_better_breakpoint :
    Level.basic.number ≤ Level.strict.number ∧
      (breakpointUnit.analyze .basic (.onDay 0 0 0) : UnitRecord ℚ).hasCritical = false ∧
      (breakpointUnit.analyze .strict (.onDay 1 0 0) : UnitRecord ℚ).hasCritical = true ∧
      (breakpointUnit.analyze .basic (.onDay 0 0 0) : UnitRecord ℚ).Raised
        (breakpointUnit.analyze .strict (.onDay 1 0 0)) ∧
      ∃ report report' : PassReport ℚ,
        (scanWith .basic (.onDay 0 0 0)
            (analysisAt .basic (attemptsBy (fun _ => none) fun _ => .onDay 0 0 0))
            { groups := .ok [⟨"flow", "Flow"⟩], units := .ok [breakpointUnit] } .idle).run
            ({ keys := .counting } : Store (UnitRecord ℚ ⊕ GroupRecord ℚ)) =
          ((.ok report, .idle), Store.afterReport { keys := .counting } report) ∧
        (scanWith .strict (.onDay 1 0 0)
            (analysisAt .strict (attemptsBy (fun _ => none) fun _ => .onDay 1 0 0))
            { groups := .ok [⟨"flow", "Flow"⟩], units := .ok [breakpointUnit] } .idle).run
            ({ keys := .counting } : Store (UnitRecord ℚ ⊕ GroupRecord ℚ)) =
          ((.ok report', .idle), Store.afterReport { keys := .counting } report') ∧
        report.Raised report' := by
  have upward : Level.basic.number ≤ Level.strict.number := by decide
  have both := stricter_level_no_better (ρ := UnitRecord ℚ ⊕ GroupRecord ℚ) upward
  exact ⟨upward, by decide +kernel, by decide +kernel, both.1 _ _ _, both.2 _ _ _ _ _ _ _ _ _⟩

end Pass

end FlowAudit
