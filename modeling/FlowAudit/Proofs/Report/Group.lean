import FlowAudit.Proofs.Log.Latest
import FlowAudit.Proofs.Number.Exact
import FlowAudit.Proofs.Pass.History
import FlowAudit.Report.Group

/-!
# FlowAudit.Proofs.Report.Group

**What a report of a group has in it after any number of scans.** The report puts two things together that
are looked up apart: the latest record of the group, which is from the last scan in which the group had
units, and the latest record under the group of every unit, which may be from any scan. The first counts
the units of that scan. The second also has the units that were in the group before and no longer are,
because nothing is ever taken back from a log. The two agree exactly when there are none of these
(`groupDetail_describes`).
-/

namespace FlowAudit

variable {ρ ν : Type}

/-! ### A report and the units it lists -/

/-- The kinds that occur among the issues that a report lists, with how often they do. -/
def UnitDetail.kindCounts (units : List (UnitDetail ν)) : KindCounts :=
  (Kind.all.map fun kind =>
    (kind, (units.flatMap UnitDetail.issues).countP (·.kind == kind))).filter (·.2 ≠ 0)

/-- A report lists the given units and no others, and counts what it lists. -/
structure GroupDetail.Consistent (detail : GroupDetail ν) (current : List (UnitRecord ν)) : Prop where
  units : detail.units.Perm (current.map .ofRecord)
  totalUnits : detail.units.length = detail.totalUnits
  totalIssues : totalOf (fun unit => unit.issues.length) detail.units = detail.totalIssues
  issueTypes : UnitDetail.kindCounts detail.units = detail.issueTypes

/-- What a report of a group says, given the records of its units in the last scan in which it had any
and in those before. -/
structure GroupDetail.Describes (detail : GroupDetail ν) (earlier current : List (UnitRecord ν)) :
    Prop where
  totalUnits : detail.totalUnits = current.length
  totalIssues : detail.totalIssues = totalOf UnitRecord.issueCount current
  issueTypes : detail.issueTypes = .ofIssues (current.flatMap UnitRecord.issues)
  /-- Besides the current units the report lists those that were in the group before and no longer are,
  each with its last record in the group. -/
  units : ∃ former : List (UnitRecord ν),
    detail.units.Perm ((current ++ former).map .ofRecord) ∧
      (former.map UnitRecord.id).Nodup ∧
        ∀ record, record ∈ former ↔ record.id ∉ current.map UnitRecord.id ∧
          ∃ before after, earlier = before ++ record :: after ∧
            record.id ∉ after.map UnitRecord.id
  /-- If no unit has left the group, the report is consistent. -/
  consistent : (∀ record ∈ earlier, record.id ∈ current.map UnitRecord.id) →
    detail.Consistent current
  /-- If one has, it lists more units than it counts. -/
  totalUnits_iff : detail.units.length = detail.totalUnits ↔
    ∀ record ∈ earlier, record.id ∈ current.map UnitRecord.id

/-- What a row of a report says of a unit: its record, and the severity of each of its issues. -/
structure UnitDetail.Shows (row : UnitDetail ν) (record : UnitRecord ν) : Prop where
  id : row.id = record.id
  name : row.name = record.name
  qualityScore : row.qualityScore = record.qualityScore
  complexityScore : row.complexityScore = record.complexityScore
  linesOfCode : row.linesOfCode = record.linesOfCode
  issues : row.issues = record.issues.map fun issue =>
    ⟨issue.kind, issue.message, issue.line, issue.kind.severity⟩

/-- Every row of a report shows a record of its group, and every current unit has a row. -/
theorem GroupDetail.Describes.shows {detail : GroupDetail ν} {earlier current : List (UnitRecord ν)}
    (describes : detail.Describes earlier current) :
    (∀ row ∈ detail.units, ∃ record ∈ earlier ++ current, row.Shows record) ∧
      ∀ record ∈ current, ∃ row ∈ detail.units, row.Shows record := by
  have shows (record : UnitRecord ν) : (UnitDetail.ofRecord record).Shows record := by constructor <;> rfl
  obtain ⟨former, listed, -, left⟩ := describes.units
  constructor
  · intro row member
    obtain ⟨record, among, rfl⟩ := List.mem_map.mp (listed.mem_iff.mp member)
    refine ⟨record, ?_, shows record⟩
    rcases List.mem_append.mp among with now | before
    · exact List.mem_append_right _ now
    · obtain ⟨-, _, _, rfl, -⟩ := (left record).mp before
      simp
  · intro record member
    refine ⟨.ofRecord record, listed.mem_iff.mpr ?_, shows record⟩
    exact List.mem_map_of_mem (List.mem_append_left _ member)

theorem kindCounts_ofRecord (units : List (UnitRecord ν)) :
    UnitDetail.kindCounts (units.map .ofRecord) = .ofIssues (units.flatMap UnitRecord.issues) := by
  have issues : (units.map UnitDetail.ofRecord).flatMap UnitDetail.issues =
      (units.flatMap UnitRecord.issues).map Issue.view := by
    rw [List.flatMap_map, List.map_flatMap]
    rfl
  have counts (kind : Kind) :
      ((units.flatMap UnitRecord.issues).map Issue.view).countP (·.kind == kind) =
        (units.flatMap UnitRecord.issues).countP (·.kind == kind) := by
    rw [List.countP_map]
    rfl
  simp only [UnitDetail.kindCounts, KindCounts.ofIssues, issues, counts]

theorem kindCounts_perm {units units' : List (UnitDetail ν)} (same : units.Perm units') :
    UnitDetail.kindCounts units = UnitDetail.kindCounts units' := by
  have counts (kind : Kind) := (same.flatMap_right UnitDetail.issues).countP_eq (·.kind == kind)
  simp only [UnitDetail.kindCounts, counts]

/-- The units that a group had before and does not have now, each with its last record. -/
def formerUnits (earlier current : List (UnitRecord ν)) : List (UnitRecord ν) :=
  (latestBy UnitRecord.id earlier).filter fun record => record.id ∉ current.map UnitRecord.id

section Former

variable {earlier current : List (UnitRecord ν)}

theorem mem_formerUnits {record : UnitRecord ν} :
    record ∈ formerUnits earlier current ↔ record.id ∉ current.map UnitRecord.id ∧
      ∃ before after, earlier = before ++ record :: after ∧ record.id ∉ after.map UnitRecord.id := by
  rw [formerUnits, List.mem_filter, decide_eq_true_iff, mem_latestBy]
  exact and_comm

theorem nodup_formerUnits : ((formerUnits earlier current).map UnitRecord.id).Nodup :=
  (nodup_latestBy earlier).sublist (List.filter_sublist.map _)

/-- No unit has left if and only if all units of before are current. -/
theorem formerUnits_eq_nil : formerUnits earlier current = [] ↔
    ∀ record ∈ earlier, record.id ∈ current.map UnitRecord.id := by
  rw [formerUnits, List.filter_eq_nil_iff]
  simp only [decide_eq_true_iff, not_not]
  constructor
  · intro stays record member
    have latest : record.id ∈ (latestBy UnitRecord.id earlier).map UnitRecord.id :=
      (mem_latestBy_keys earlier record.id).mpr (List.mem_map_of_mem member)
    obtain ⟨record', member', same⟩ := List.mem_map.mp latest
    exact same ▸ stays record' member'
  · intro stays record member
    exact stays record (mem_of_mem_latestBy member)

end Former

/-- A report that lists the current units and no others is consistent. -/
theorem consistent_of_perm {detail : GroupDetail ν} {current : List (UnitRecord ν)}
    (listed : detail.units.Perm (current.map .ofRecord))
    (totalUnits : detail.totalUnits = current.length)
    (totalIssues : detail.totalIssues = totalOf UnitRecord.issueCount current)
    (issueTypes : detail.issueTypes = .ofIssues (current.flatMap UnitRecord.issues)) :
    detail.Consistent current where
  units := listed
  totalUnits := by
    rw [listed.length_eq, List.length_map, totalUnits]
  totalIssues := by
    rw [totalOf_perm _ listed, totalOf_map, totalIssues]
    exact totalOf_congr fun record _ => List.length_map _
  issueTypes := by
    rw [kindCounts_perm listed, kindCounts_ofRecord, issueTypes]

/-! ### The latest record of a group -/

/-- Where a test is passed at all, it is passed for a last time. -/
theorem exists_last {α : Type} {test : α → Prop} {members : List α} (some_member : ∃ a ∈ members, test a) :
    ∃ earlier last later, members = earlier ++ last :: later ∧ test last ∧
      ∀ a ∈ later, ¬ test a := by
  induction members using List.reverseRecOn with
  | nil => simp at some_member
  | append_singleton members a ih =>
      by_cases here : test a
      · exact ⟨members, a, [], rfl, here, by simp⟩
      · obtain ⟨b, member, holds⟩ := some_member
        have before : b ∈ members := by
          rcases List.mem_append.mp member with before | same
          · exact before
          · rw [List.mem_singleton] at same
            exact absurd (same ▸ holds) here
        obtain ⟨earlier, last, later, cut, found, others⟩ := ih ⟨b, before, holds⟩
        refine ⟨earlier, last, later ++ [a], by rw [cut, List.append_assoc, List.cons_append], found, ?_⟩
        intro c among
        rcases List.mem_append.mp among with before | same
        · exact others c before
        · rw [List.mem_singleton] at same
          exact same ▸ here

section

variable [Scalar ν]

/-- What a record of a group counts are the units that it is made from. -/
theorem counts_of_aggregateGroup {id name : String} {units : List (UnitRecord ν)} {now : Instant}
    {record : GroupRecord ν} (made : aggregateGroup id name units now = some record) :
    record.id = id ∧ record.totalUnits = units.length ∧
      record.totalIssues = totalOf UnitRecord.issueCount units ∧
      record.issueTypes = .ofIssues (units.flatMap UnitRecord.issues) := by
  cases units with
  | nil => cases made
  | cons unit rest =>
      cases made
      exact ⟨rfl, rfl, rfl, rfl⟩

/-- The latest record of a group is made from the units that the group had in the last scan in which it
had any. -/
theorem find?_groupRecords (earlier : List ScanPass) {last : ScanPass} {later : List ScanPass}
    {id : String}
    (present : (last.unitsOf id : List (UnitRecord ν)) ≠ [])
    (absent : ∀ pass ∈ later, (pass.unitsOf id : List (UnitRecord ν)) = []) :
    ∃ name record,
      ((earlier ++ last :: later).flatMap ScanPass.groupRecords).reverse.find? (·.id = id) =
        some record ∧
      aggregateGroup id name (last.unitsOf id : List (UnitRecord ν)) last.now = some record := by
  have none_later : (later.flatMap ScanPass.groupRecords : List (GroupRecord ν)).reverse.find?
      (·.id = id) = none := by
    rw [List.find?_eq_none]
    intro record member same
    obtain ⟨pass, among, found⟩ := List.mem_flatMap.mp (List.mem_reverse.mp member)
    have recorded := (pass.mem_groupRecords_ids (ν := ν) id).mp
      (List.mem_map.mpr ⟨record, found, of_decide_eq_true same⟩)
    exact recorded (absent pass among)
  obtain ⟨other, member, named⟩ :=
    List.mem_map.mp ((last.mem_groupRecords_ids (ν := ν) id).mpr present)
  have found : ((last.groupRecords : List (GroupRecord ν)).reverse.find? (·.id = id)).isSome := by
    rw [List.find?_isSome]
    exact ⟨other, List.mem_reverse.mpr member, decide_eq_true named⟩
  obtain ⟨record, found⟩ := Option.isSome_iff_exists.mp found
  obtain ⟨-, group, -, -, -, made⟩ :=
    mem_groupRecords _ _ (List.mem_reverse.mp (List.mem_of_find?_eq_some found))
  have same : group.id = id := by
    rw [← (counts_of_aggregateGroup made).1]
    simpa using List.find?_some found
  refine ⟨group.name, record, ?_, same ▸ made⟩
  rw [List.flatMap_append, List.flatMap_cons, List.reverse_append, List.reverse_append,
    List.find?_append, List.find?_append, none_later, found]
  rfl

/-- A report lists the current units and the former ones. -/
theorem units_ofRecords_perm (earlier : List (UnitRecord ν)) (bands : GradeBands ν)
    (group : GroupRecord ν) {current : List (UnitRecord ν)}
    (distinct : (current.map UnitRecord.id).Nodup) :
    (GroupDetail.ofRecords bands group (latestBy UnitRecord.id (earlier ++ current))).units.Perm
      ((current ++ formerUnits earlier current).map .ofRecord) :=
  ((List.mergeSort_perm _ _).trans (latestBy_append_perm distinct)).map _

/-- A report made from the latest record of a group and the latest records of its units. -/
theorem describes_ofRecords (bands : GradeBands ν) {group : GroupRecord ν} {id name : String}
    {now : Instant} {earlier current : List (UnitRecord ν)}
    (made : aggregateGroup id name current now = some group)
    (distinct : (current.map UnitRecord.id).Nodup) :
    (GroupDetail.ofRecords bands group
      (latestBy UnitRecord.id (earlier ++ current))).Describes earlier current := by
  obtain ⟨-, totalUnits, totalIssues, issueTypes⟩ := counts_of_aggregateGroup made
  have listed := units_ofRecords_perm earlier bands group distinct
  refine ⟨totalUnits, totalIssues, issueTypes,
    ⟨_, listed, nodup_formerUnits, fun _ => mem_formerUnits⟩, fun stays => ?_, ?_⟩
  · rw [formerUnits_eq_nil.mpr stays, List.append_nil] at listed
    exact consistent_of_perm listed totalUnits totalIssues issueTypes
  · have total : (GroupDetail.ofRecords bands group
        (latestBy UnitRecord.id (earlier ++ current))).totalUnits = current.length := totalUnits
    rw [listed.length_eq, total, List.length_map, List.length_append, ← formerUnits_eq_nil,
      ← List.length_eq_zero_iff]
    omega

/-! ### After any number of scans -/

variable [Stored ρ (UnitRecord ν)] [Stored ρ (GroupRecord ν)]

theorem Recorded.run_groupDetail {store : Store ρ} {passes : List ScanPass}
    (recorded : Recorded ν store passes) (readBack : ∀ pass ∈ passes, pass.ReadsBack ρ ν)
    (bands : GradeBands ν) {id : String} {group : GroupRecord ν}
    (found : (passes.flatMap ScanPass.groupRecords).reverse.find? (·.id = id) = some group) :
    ((Store.groupDetail id bands).run.run store).1 =
      .ok (some (.ofRecords bands group
        (latestBy UnitRecord.id (passes.flatMap (ScanPass.unitsOf · id))))) := by
  unfold Store.groupDetail
  rw [Store.run_bind, recorded.run_latestGroup readBack, found]
  show ((Store.latestUnits id >>= fun units => pure (some (.ofRecords bands group units)) :
    StoreM ρ (Option (GroupDetail ν))).run.run store.touched).1 = _
  rw [Store.run_bind, recorded.touched.run_latestUnits readBack]
  rfl

/-- **A report of a group after any number of scans.** The store was empty and refuses nothing, in every
export the identifiers of units are distinct, and records are read back as they were written. Then a
group that has a record has a report. It counts the units that the group had in the last scan in which
it had any, and it lists these units and, besides, those that the group had before and that have left
it since; so it is consistent exactly when no unit has left the group. -/
theorem groupDetail_describes (keys : KeyRule) (traversal : Traversal) (bands : GradeBands ν)
    {passes : List ScanPass} {id : String}
    (distinct : ∀ pass ∈ passes, (pass.units.map SourceUnit.id).Nodup)
    (readBack : ∀ pass ∈ passes, pass.ReadsBack ρ ν)
    (recorded : ∃ pass ∈ passes,
      id ∈ (pass.groupRecords : List (GroupRecord ν)).map GroupRecord.id) :
    ∃ earlier last later detail,
      passes = earlier ++ last :: later ∧
      id ∈ (last.groupRecords : List (GroupRecord ν)).map GroupRecord.id ∧
      (∀ pass ∈ later, id ∉ (pass.groupRecords : List (GroupRecord ν)).map GroupRecord.id) ∧
      ((Store.groupDetail id bands).run.run
        (({ keys, traversal } : Store ρ).afterScans ν passes)).1 = .ok (some detail) ∧
      detail.Describes (earlier.flatMap (ScanPass.unitsOf · id)) (last.unitsOf id) := by
  obtain ⟨earlier, last, later, rfl, present, absent⟩ := exists_last recorded
  have holds := Recorded.of_passes (ρ := ρ) (ν := ν) keys traversal (earlier ++ last :: later)
  have some_unit : (last.unitsOf id : List (UnitRecord ν)) ≠ [] :=
    (last.mem_groupRecords_ids id).mp present
  have no_unit : ∀ pass ∈ later, (pass.unitsOf id : List (UnitRecord ν)) = [] := by
    intro pass member
    by_contra some_unit
    exact absent pass member ((pass.mem_groupRecords_ids id).mpr some_unit)
  obtain ⟨name, group, found, made⟩ := find?_groupRecords earlier some_unit no_unit
  have units : (earlier ++ last :: later).flatMap (ScanPass.unitsOf · id) =
      earlier.flatMap (ScanPass.unitsOf · id) ++ (last.unitsOf id : List (UnitRecord ν)) := by
    have none_later : later.flatMap (ScanPass.unitsOf · id) = ([] : List (UnitRecord ν)) :=
      List.flatMap_eq_nil_iff.mpr no_unit
    rw [List.flatMap_append, List.flatMap_cons, none_later, List.append_nil]
  refine ⟨earlier, last, later, _, rfl, present, absent, holds.run_groupDetail readBack bands found, ?_⟩
  rw [units]
  exact describes_ofRecords bands made (ScanPass.nodup_unitsOf (distinct last (by simp)) id)

end

/-! ### A unit that has left -/

instance : Stored (UnitRecord ν ⊕ GroupRecord ν) (UnitRecord ν) := ⟨Sum.inl, Sum.getLeft?⟩

instance : Stored (UnitRecord ν ⊕ GroupRecord ν) (GroupRecord ν) := ⟨Sum.inr, Sum.getRight?⟩

/-- Records that are kept as they are are read back as they were written. -/
theorem ScanPass.readsBack_sum [Scalar ν] (pass : ScanPass) :
    pass.ReadsBack (UnitRecord ν ⊕ GroupRecord ν) ν :=
  ⟨fun _ _ => rfl, fun _ _ => rfl⟩

/-- A unit without an issue. -/
def emptyUnit : SourceUnit := { groupId := "f", id := "a", name := "a", source := "" }

/-- A unit with one issue. -/
def returningUnit : SourceUnit := { groupId := "f", id := "b", name := "b", source := "return;" }

/-- A scan of some units of one group, at the start of a day. -/
def dayScan (day : Int) (units : List SourceUnit) : ScanPass where
  level := .basic
  now := .onDay day 0 0
  attempt _ := .ok (.onDay day 0 0)
  groups := [{ id := "f", name := "Flow" }]
  units

/-- The two units are there on one day, and on the next one of them is left. -/
theorem groupDetail_describes_former :
    ∃ earlier last later detail,
      [dayScan 17167 [emptyUnit, returningUnit], dayScan 17168 [emptyUnit]] =
        earlier ++ last :: later ∧
      "f" ∈ (last.groupRecords : List (GroupRecord ℚ)).map GroupRecord.id ∧
      (∀ pass ∈ later, "f" ∉ (pass.groupRecords : List (GroupRecord ℚ)).map GroupRecord.id) ∧
      ((Store.groupDetail "f" (GradeBands.standard : GradeBands ℚ)).run.run
        (({ keys := .counting } : Store (UnitRecord ℚ ⊕ GroupRecord ℚ)).afterScans ℚ
          [dayScan 17167 [emptyUnit, returningUnit], dayScan 17168 [emptyUnit]])).1 =
        .ok (some detail) ∧
      detail.Describes (earlier.flatMap (ScanPass.unitsOf · "f")) (last.unitsOf "f") :=
  groupDetail_describes .counting .direct .standard
    (by decide)
    (fun pass _ => pass.readsBack_sum)
    ⟨dayScan 17168 [emptyUnit], by simp, by decide +kernel⟩

/-- A unit that has left its group is still listed: the report counts one unit without an issue, and it
lists two units, one with an issue. -/
theorem groupDetail_lists_former :
    ∃ detail, ((Store.groupDetail "f" (GradeBands.standard : GradeBands ℚ)).run.run
        (({ keys := .counting } : Store (UnitRecord ℚ ⊕ GroupRecord ℚ)).afterScans ℚ
          [dayScan 17167 [emptyUnit, returningUnit], dayScan 17168 [emptyUnit]])).1 =
        .ok (some detail) ∧
      detail.totalUnits = 1 ∧ detail.units.length = 2 ∧
      detail.totalIssues = 0 ∧ totalOf (fun unit => unit.issues.length) detail.units = 1 := by
  have holds := Recorded.of_passes (ρ := UnitRecord ℚ ⊕ GroupRecord ℚ) (ν := ℚ) .counting .direct
    [dayScan 17167 [emptyUnit, returningUnit], dayScan 17168 [emptyUnit]]
  refine ⟨_, holds.run_groupDetail (fun pass _ => pass.readsBack_sum) .standard rfl, rfl, ?_,
    by decide +kernel, ?_⟩
  · show ((worstFirst _).map UnitDetail.ofRecord).length = 2
    rw [List.length_map, worstFirst, List.length_mergeSort]
    decide +kernel
  · show totalOf _ ((worstFirst _).map UnitDetail.ofRecord) = 1
    rw [totalOf_map, worstFirst, totalOf_perm _ (List.mergeSort_perm _ _)]
    decide +kernel

end FlowAudit
