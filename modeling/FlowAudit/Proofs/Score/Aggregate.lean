import FlowAudit.Proofs.Record.RoundTrip
import FlowAudit.Proofs.Score.Levels

/-!
# FlowAudit.Proofs.Score.Aggregate

**The record of a group agrees with itself and with its units** (`aggregateGroup_consistent`). Its counts
are taken one by one from the units, but they fit together: units with a critical issue are units with an
issue, and the counts by kind add up to all issues (`GroupRecord.Tallies`). No count is above one of the
totals, so a record can be stored when these are not too great (`storable_of_aggregateGroup`). Its scores are
means, so they lie where the scores of the units lie, and the cap holds although rounding comes after it
(`GroupRecord.Averages`).

The order of the units plays no part. That is true of the counts for numbers of any type; for the scores
it takes numbers that add up to the same in any order.
-/

namespace FlowAudit

open Json Scalar

variable {ν : Type}

/-! ### Counts of issues -/

namespace KindCounts

/-- A kind is listed with the number of its issues if there are any. -/
theorem mem_ofIssues {issues : List Issue} {kind : Kind} {count : Nat} :
    (kind, count) ∈ ofIssues issues ↔ count = issues.countP (·.kind == kind) ∧ 0 < count := by
  unfold ofIssues
  rw [List.mem_filter, List.mem_map]
  constructor
  · rintro ⟨⟨_, -, same⟩, some_issue⟩
    cases same
    exact ⟨rfl, Nat.pos_of_ne_zero (of_decide_eq_true some_issue)⟩
  · rintro ⟨rfl, some_issue⟩
    exact ⟨⟨kind, mem_all kind, rfl⟩, decide_eq_true (Nat.ne_of_gt some_issue)⟩

/-- No kind is listed twice. -/
theorem nodup_ofIssues (issues : List Issue) : ((ofIssues issues).map Prod.fst).Nodup := by
  have listed : ((Kind.all.map fun kind => (kind, issues.countP fun issue : Issue =>
      issue.kind == kind)).map Prod.fst) = Kind.all := rfl
  have distinct : Kind.all.Nodup := by decide
  exact (listed ▸ distinct).sublist (List.filter_sublist.map _)

/-- The counts do not depend on the order of the issues. -/
theorem ofIssues_perm {issues issues' : List Issue} (same : issues.Perm issues') :
    ofIssues issues = ofIssues issues' := by
  simp only [ofIssues, same.countP_eq]

/-- A total does not see members that count for nothing. -/
theorem totalOf_filter_ne_zero {α : Type} (count : α → Nat) (members : List α) :
    totalOf count (members.filter (count · ≠ 0)) = totalOf count members := by
  induction members with
  | nil => rfl
  | cons a rest ih =>
      rw [List.filter_cons, totalOf]
      by_cases nothing : count a = 0
      · rw [if_neg (by simpa using nothing), ih, nothing, Nat.zero_add]
      · rw [if_pos (by simpa using nothing), totalOf, ih]

theorem inOrder_ofIssues (issues : List Issue) : (ofIssues issues).InOrder := by
  unfold InOrder ofIssues
  exact List.Pairwise.filter _ (List.pairwise_map.mpr inOrder_all)

/-- **The counts by kind add up to all issues.** -/
theorem totalOf_ofIssues (issues : List Issue) :
    totalOf Prod.snd (ofIssues issues) = issues.length := by
  have distinct : Kind.all.Nodup := by decide
  have classes := totalOf_classes Issue.kind (fun _ => 1) distinct
    fun issue (_ : issue ∈ issues) => mem_all issue.kind
  rw [totalOf_one] at classes
  rw [ofIssues, totalOf_filter_ne_zero, totalOf_map, ← classes]
  refine totalOf_congr fun kind _ => ?_
  rw [totalOf_one, List.countP_eq_length_filter]
  rfl

end KindCounts

/-! ### Counts of units -/

/-- How the counts of a record fit the units that it is made from, and each other. -/
structure GroupRecord.Tallies (record : GroupRecord ν) (units : List (UnitRecord ν)) : Prop where
  totalUnits : record.totalUnits = units.length
  nodesWithIssues : record.nodesWithIssues = units.countP fun unit => unit.issues ≠ []
  nodesWithCriticalIssues : record.nodesWithCriticalIssues =
    units.countP fun unit => ∃ issue ∈ unit.issues, issue.severity = .critical
  critical_le_withIssues : record.nodesWithCriticalIssues ≤ record.nodesWithIssues
  withIssues_le_totalUnits : record.nodesWithIssues ≤ record.totalUnits
  withIssues_le_totalIssues : record.nodesWithIssues ≤ record.totalIssues
  totalIssues : record.totalIssues = totalOf Prod.snd record.issueTypes
  /-- The kinds that occur, each of them once. -/
  kinds : (record.issueTypes.map Prod.fst).Nodup
  mem_issueTypes : ∀ kind count, (kind, count) ∈ record.issueTypes ↔
    count = (units.flatMap UnitRecord.issues).countP (·.kind == kind) ∧ 0 < count
  critical_iff : 0 < record.nodesWithCriticalIssues ↔
    ∃ entry ∈ record.issueTypes, entry.1.severity = .critical

/-- Two records with the same counts. -/
structure GroupRecord.CountsAlike (record record' : GroupRecord ν) : Prop where
  totalIssues : record'.totalIssues = record.totalIssues
  nodesWithIssues : record'.nodesWithIssues = record.nodesWithIssues
  nodesWithCriticalIssues : record'.nodesWithCriticalIssues = record.nodesWithCriticalIssues
  totalUnits : record'.totalUnits = record.totalUnits
  issueTypes : record'.issueTypes = record.issueTypes

theorem UnitRecord.hasCritical_iff {unit : UnitRecord ν} :
    unit.hasCritical = true ↔ ∃ issue ∈ unit.issues, issue.severity = .critical := by
  simp [UnitRecord.hasCritical, FlowAudit.hasCritical]

/-- A unit has at least as many issues as it counts for. -/
theorem countP_withIssues_le (units : List (UnitRecord ν)) :
    (units.countP fun unit => unit.issues ≠ []) ≤ totalOf UnitRecord.issueCount units := by
  induction units with
  | nil => exact Nat.le_refl 0
  | cons unit rest ih =>
      rw [List.countP_cons, totalOf, Nat.add_comm]
      refine Nat.add_le_add ?_ ih
      split
      · rename_i some_issue
        exact List.length_pos_iff.mpr (of_decide_eq_true some_issue)
      · exact Nat.zero_le _

/-- Some unit has a critical issue if and only if some kind that is listed is critical. -/
theorem critical_iff_listed (units : List (UnitRecord ν)) :
    0 < units.countP UnitRecord.hasCritical ↔
      ∃ entry ∈ KindCounts.ofIssues (units.flatMap UnitRecord.issues),
        entry.1.severity = .critical := by
  rw [List.countP_pos_iff]
  constructor
  · rintro ⟨unit, member, critical⟩
    obtain ⟨issue, among, severe⟩ := UnitRecord.hasCritical_iff.mp critical
    have occurs : 0 < (units.flatMap UnitRecord.issues).countP (·.kind == issue.kind) :=
      List.countP_pos_iff.mpr ⟨issue, List.mem_flatMap.mpr ⟨unit, member, among⟩, by simp⟩
    exact ⟨_, KindCounts.mem_ofIssues.mpr ⟨rfl, occurs⟩, severe⟩
  · rintro ⟨⟨kind, count⟩, listed, severe⟩
    obtain ⟨rfl, occurs⟩ := KindCounts.mem_ofIssues.mp listed
    obtain ⟨issue, member, same⟩ := List.countP_pos_iff.mp occurs
    obtain ⟨unit, among, has⟩ := List.mem_flatMap.mp member
    have kinds : issue.kind = kind := by simpa using same
    have critical : issue.severity = .critical := (congrArg Kind.severity kinds).trans severe
    exact ⟨unit, among, UnitRecord.hasCritical_iff.mpr ⟨issue, has, critical⟩⟩

section Made

variable [Scalar ν] {id name : String} {now : Instant} {units units' : List (UnitRecord ν)}
  {record record' : GroupRecord ν}

theorem aggregateGroup_eq_none_iff : aggregateGroup id name units now = none ↔ units = [] := by
  cases units with
  | nil => exact ⟨fun _ => rfl, fun _ => rfl⟩
  | cons unit rest => exact ⟨nofun, nofun⟩

/-- **The counts of a record fit its units and each other.** -/
theorem tallies_of_aggregateGroup (made : aggregateGroup id name units now = some record) :
    record.Tallies units := by
  have withIssues : (fun unit : UnitRecord ν => !unit.issues.isEmpty) =
      fun unit => decide (unit.issues ≠ []) := by
    funext unit
    cases unit.issues <;> rfl
  have critical : (UnitRecord.hasCritical : UnitRecord ν → Bool) =
      fun unit => decide (∃ issue ∈ unit.issues, issue.severity = .critical) := by
    funext unit
    rw [Bool.eq_iff_iff, UnitRecord.hasCritical_iff, decide_eq_true_iff]
  have among : units.countP UnitRecord.hasCritical ≤ units.countP fun unit => !unit.issues.isEmpty := by
    refine List.countP_mono_left fun unit _ has => ?_
    obtain ⟨issue, member, -⟩ := UnitRecord.hasCritical_iff.mp has
    have filled := List.ne_nil_of_mem member
    rw [congrFun withIssues unit]
    exact decide_eq_true filled
  have issues := countP_withIssues_le units
  rw [← withIssues] at issues
  have total : totalOf UnitRecord.issueCount units =
      totalOf Prod.snd (KindCounts.ofIssues (units.flatMap UnitRecord.issues)) := by
    rw [totalOf_issueCount, KindCounts.totalOf_ofIssues]
  have listed := critical_iff_listed units
  cases units with
  | nil => cases made
  | cons unit rest =>
      cases made
      exact
        { totalUnits := rfl
          nodesWithIssues := congrArg (List.countP · (unit :: rest)) withIssues
          nodesWithCriticalIssues := congrArg (List.countP · (unit :: rest)) critical
          critical_le_withIssues := among
          withIssues_le_totalUnits := List.countP_le_length
          withIssues_le_totalIssues := issues
          totalIssues := total
          kinds := KindCounts.nodup_ofIssues _
          mem_issueTypes := fun _ _ => KindCounts.mem_ofIssues
          critical_iff := listed }

/-- The counts by kind of a record are in catalog order. -/
theorem inOrder_of_aggregateGroup (made : aggregateGroup id name units now = some record) :
    record.issueTypes.InOrder := by
  cases units with
  | nil => cases made
  | cons unit rest =>
      cases made
      exact KindCounts.inOrder_ofIssues _

/-- **A record that is made can be stored**, if its totals are within the words that hold them, and the
texts of its scores and of its time read back. -/
theorem storable_of_aggregateGroup [ToValue ν] [OfTree ν]
    (made : aggregateGroup id name units now = some record)
    (totalUnits : record.totalUnits < Number.wordSize 64)
    (totalIssues : record.totalIssues < Number.wordSize 64)
    (qualityScore : ofText? (toText record.qualityScore) = some record.qualityScore)
    (complexityScore : ofText? (toText record.complexityScore) = some record.complexityScore)
    (createdAt : Instant.ofText? record.createdAt.text = some record.createdAt) : record.Storable := by
  have tallies := tallies_of_aggregateGroup made
  have withIssues := Nat.lt_of_le_of_lt tallies.withIssues_le_totalUnits totalUnits
  have total := tallies.totalIssues ▸ totalIssues
  exact
    { totalIssues
      nodesWithIssues := withIssues
      nodesWithCriticalIssues := Nat.lt_of_le_of_lt tallies.critical_le_withIssues withIssues
      totalUnits
      issueTypes := inOrder_of_aggregateGroup made
      counts := fun _ member => Nat.lt_of_le_of_lt (le_totalOf Prod.snd member) total
      qualityScore
      complexityScore
      createdAt }

/-- The counts of a record do not depend on the order of the units. -/
theorem countsAlike_of_perm (same : units.Perm units')
    (made : aggregateGroup id name units now = some record)
    (made' : aggregateGroup id name units' now = some record') : record.CountsAlike record' := by
  have length := same.length_eq
  have withIssues := same.countP_eq fun unit => !unit.issues.isEmpty
  have critical := same.countP_eq UnitRecord.hasCritical
  have issues := totalOf_perm UnitRecord.issueCount same
  have kinds := KindCounts.ofIssues_perm (same.flatMap_right UnitRecord.issues)
  cases units with
  | nil => cases made
  | cons unit rest =>
      cases units' with
      | nil => cases made'
      | cons unit' rest' =>
          cases made
          cases made'
          exact
            { totalIssues := issues.symm
              nodesWithIssues := withIssues.symm
              nodesWithCriticalIssues := critical.symm
              totalUnits := length.symm
              issueTypes := kinds.symm }

end Made

/-! ### Scores -/

/-- The exact mean of the qualities of units. -/
def meanQuality (units : List (UnitRecord ℚ)) : ℚ :=
  (units.map UnitRecord.qualityScore).sum / units.length

/-- Where the scores of a record lie. -/
structure GroupRecord.Averages (record : GroupRecord ℚ) (units : List (UnitRecord ℚ)) : Prop where
  nonneg : 0 ≤ record.qualityScore
  le_hundred : record.qualityScore ≤ 100
  capped : 0 < record.nodesWithCriticalIssues → record.qualityScore ≤ 50
  mean : record.nodesWithCriticalIssues = 0 → record.qualityScore = round2 (meanQuality units)
  /-- Without a cap the quality lies between the least and the greatest of the units, all rounded. -/
  between : record.nodesWithCriticalIssues = 0 → ∃ least ∈ units, ∃ greatest ∈ units,
    (∀ unit ∈ units, least.qualityScore ≤ unit.qualityScore ∧
      unit.qualityScore ≤ greatest.qualityScore) ∧
    round2 least.qualityScore ≤ record.qualityScore ∧
    record.qualityScore ≤ round2 greatest.qualityScore

section Scores

variable {id name : String} {now : Instant} {units units' : List (UnitRecord ℚ)}
  {record : GroupRecord ℚ}

theorem sum_div_eq_meanQuality (units : List (UnitRecord ℚ)) :
    sum (units.map UnitRecord.qualityScore) / ofNat units.length = meanQuality units := by
  rw [sum_eq, ofNat_eq, meanQuality]

theorem le_meanQuality {low : ℚ} (nonempty : units ≠ [])
    (above : ∀ unit ∈ units, low ≤ unit.qualityScore) : low ≤ meanQuality units := by
  have filled : units.map UnitRecord.qualityScore ≠ [] := by simpa using nonempty
  have bound := le_sum_div_length filled (by simpa using above)
  rwa [List.length_map, sum_div_eq_meanQuality] at bound

theorem meanQuality_le {high : ℚ} (nonempty : units ≠ [])
    (below : ∀ unit ∈ units, unit.qualityScore ≤ high) : meanQuality units ≤ high := by
  have filled : units.map UnitRecord.qualityScore ≠ [] := by simpa using nonempty
  have bound := sum_div_length_le filled (by simpa using below)
  rwa [List.length_map, sum_div_eq_meanQuality] at bound

/-- The scores of a record. The bound at zero after rounding does nothing as long as no unit has a
negative score. -/
theorem scores_of_aggregateGroup (made : aggregateGroup id name units now = some record) :
    units ≠ [] ∧ record.nodesWithCriticalIssues = units.countP UnitRecord.hasCritical ∧
      record.qualityScore = max 0 (round2 (cappedQuality units)) ∧
      record.complexityScore =
        round2 (sum (units.map UnitRecord.complexityScore) / ofNat units.length) := by
  cases units with
  | nil => cases made
  | cons unit rest =>
      cases made
      refine ⟨List.cons_ne_nil _ _, rfl, ?_, rfl⟩
      show atLeast (ofNat 0) (round2 (cappedQuality (unit :: rest))) = _
      rw [atLeast_eq_max, ofNat_eq, Nat.cast_zero]

theorem cappedQuality_of_critical (critical : 0 < units.countP UnitRecord.hasCritical) :
    cappedQuality units = min 50 (meanQuality units) := by
  unfold cappedQuality
  rw [if_pos critical, atMost_eq_min, sum_div_eq_meanQuality]
  rfl

theorem cappedQuality_of_none (none : units.countP UnitRecord.hasCritical = 0) :
    cappedQuality units = meanQuality units := by
  unfold cappedQuality
  rw [if_neg (Nat.not_lt.mpr (Nat.le_of_eq none)), sum_div_eq_meanQuality]

/-- **The scores of a record lie where those of its units lie**, and below the cap where it applies. -/
theorem averages_of_aggregateGroup (made : aggregateGroup id name units now = some record)
    (range : ∀ unit ∈ units, 0 ≤ unit.qualityScore ∧ unit.qualityScore ≤ 100) :
    record.Averages units := by
  obtain ⟨nonempty, count, quality, -⟩ := scores_of_aggregateGroup made
  have low : 0 ≤ meanQuality units := le_meanQuality nonempty fun unit member => (range unit member).1
  have high : meanQuality units ≤ 100 :=
    meanQuality_le nonempty fun unit member => (range unit member).2
  have bounds : 0 ≤ cappedQuality units ∧ cappedQuality units ≤ 100 := by
    rcases Nat.eq_zero_or_pos (units.countP UnitRecord.hasCritical) with none | critical
    · rw [cappedQuality_of_none none]
      exact ⟨low, high⟩
    · rw [cappedQuality_of_critical critical]
      exact ⟨le_min (by norm_num) low, (min_le_right _ _).trans high⟩
  -- Rounding keeps bounds that are whole numbers.
  have zero : round2 (0 : ℚ) = 0 := mod_cast round2_natCast 0
  have rounded : 0 ≤ round2 (cappedQuality units) := zero.symm.trans_le (round2_mono bounds.1)
  rw [max_eq_right rounded] at quality
  constructor
  · rw [quality]
    exact rounded
  · have most := round2_mono bounds.2
    rw [quality]
    exact most.trans_eq (round2_natCast 100)
  · intro critical
    rw [count] at critical
    have most : round2 (cappedQuality units) ≤ round2 50 := by
      rw [cappedQuality_of_critical critical]
      exact round2_mono (min_le_left _ _)
    rw [quality]
    exact most.trans_eq (round2_natCast 50)
  · intro none
    rw [quality, cappedQuality_of_none (count ▸ none)]
  · intro none
    obtain ⟨least, isLeast, greatest, isGreatest, between⟩ := exists_extremes UnitRecord.qualityScore nonempty
    rw [quality, cappedQuality_of_none (count ▸ none)]
    exact ⟨least, isLeast, greatest, isGreatest, between,
      round2_mono (le_meanQuality nonempty fun unit member => (between unit member).1),
      round2_mono (meanQuality_le nonempty fun unit member => (between unit member).2)⟩

/-- **The order of the units plays no part in a record**, as long as scores add up exactly. -/
theorem aggregateGroup_perm (same : units.Perm units') :
    aggregateGroup id name units' now = aggregateGroup id name units now := by
  have qualities := sum_perm (same.map UnitRecord.qualityScore)
  have complexities := sum_perm (same.map UnitRecord.complexityScore)
  have issues := totalOf_perm UnitRecord.issueCount same
  have kinds := KindCounts.ofIssues_perm (same.flatMap_right UnitRecord.issues)
  simp only [aggregateGroup, same.isEmpty_eq, same.length_eq, same.countP_eq, qualities, complexities,
    issues, kinds]

end Scores

/-- **The record of a group agrees with itself and with its units.** There is one if and only if there are
units. Its counts fit together and are those of the units, in whatever order these come. Over exact
fractions, its scores do not depend on the order either, and where the scores of the units are between zero
and a hundred, its quality is too: at most fifty with a critical issue, and otherwise the rounded mean. -/
theorem aggregateGroup_consistent (id name : String) (now : Instant) :
    (∀ (ν : Type) [Scalar ν] (units : List (UnitRecord ν)),
      (aggregateGroup id name units now = none ↔ units = []) ∧
      (∀ record, aggregateGroup id name units now = some record → record.Tallies units) ∧
      ∀ units', units.Perm units' → ∀ record record',
        aggregateGroup id name units now = some record →
        aggregateGroup id name units' now = some record' → record.CountsAlike record') ∧
    ∀ units : List (UnitRecord ℚ),
      (∀ unit ∈ units, 0 ≤ unit.qualityScore ∧ unit.qualityScore ≤ 100) →
      (∀ record, aggregateGroup id name units now = some record → record.Averages units) ∧
      ∀ units', units.Perm units' →
        aggregateGroup id name units' now = aggregateGroup id name units now := by
  refine ⟨fun ν _ units => ⟨aggregateGroup_eq_none_iff, fun _ => tallies_of_aggregateGroup,
    fun _ same _ _ => countsAlike_of_perm same⟩, fun units range => ⟨fun _ made => ?_, ?_⟩⟩
  · exact averages_of_aggregateGroup made range
  · exact fun _ => aggregateGroup_perm

/-- A unit with some issues and a score. -/
def scoredUnit (id : String) (score : ℚ) (issues : List Issue) : UnitRecord ℚ where
  id
  groupId := "flow"
  name := id
  linesOfCode := 10
  complexityScore := 3
  qualityScore := score
  issues
  createdAt := .onDay 0 0 0

/-- Two units without issues and one with a breakpoint and two calls. -/
def cappedUnits : List (UnitRecord ℚ) :=
  [scoredUnit "a" 100 [],
    scoredUnit "b" 50 [.located .debuggerStatement 1 "", .located .consoleLog 2 "",
      .located .consoleLog 3 ""],
    scoredUnit "c" 100 []]

/-- The mean of the three is over eighty, and the cap applies; the last unit may as well come first. -/
theorem aggregateGroup_consistent_capped :
    (∀ unit ∈ cappedUnits, 0 ≤ unit.qualityScore ∧ unit.qualityScore ≤ 100) ∧
    cappedUnits.Perm cappedUnits.reverse ∧
    ∃ record record', aggregateGroup "flow" "Flow" cappedUnits (.onDay 0 0 0) = some record ∧
      aggregateGroup "flow" "Flow" cappedUnits.reverse (.onDay 0 0 0) = some record' ∧
      record.nodesWithCriticalIssues = 1 ∧ 50 < meanQuality cappedUnits ∧
      record.Tallies cappedUnits ∧ record.CountsAlike record' ∧ record.Averages cappedUnits ∧
      aggregateGroup "flow" "Flow" cappedUnits.reverse (.onDay 0 0 0) =
        aggregateGroup "flow" "Flow" cappedUnits (.onDay 0 0 0) := by
  have range : ∀ unit ∈ cappedUnits, 0 ≤ unit.qualityScore ∧ unit.qualityScore ≤ 100 := by
    decide +kernel
  have same : cappedUnits.Perm cappedUnits.reverse := (List.reverse_perm _).symm
  obtain ⟨counts, scores⟩ := aggregateGroup_consistent "flow" "Flow" (.onDay 0 0 0)
  exact ⟨range, same, _, _, rfl, rfl, rfl, by decide +kernel, (counts ℚ cappedUnits).2.1 _ rfl,
    (counts ℚ cappedUnits).2.2 _ same _ _ rfl rfl, (scores cappedUnits range).1 _ rfl,
    (scores cappedUnits range).2 _ same⟩

end FlowAudit
