import FlowAudit.Proofs.Json.Decode
import FlowAudit.Record.Codec
import Mathlib.Data.List.Sort

/-!
# FlowAudit.Proofs.Record.RoundTrip

**The text of a record reads back as that record.** The four kinds of record take this from their
parts: every tag of an issue and every name of a metric is found in its table, counts and line
numbers come back from the words that hold them, and counts by kind come back in catalog order
(`KindCounts.decodes_toValue`). What is left to the numbers and to the instants of a record is that their own
texts read back, and a record is `Storable` when they do.
-/

namespace FlowAudit

open Json Json.Decode Number

/-! ### Names and instants -/

theorem decodes_kind (kind : Kind) : Decodes (toValue kind) OfTree.decode kind := by
  have found : Kind.all.find? (fun other => other.tag == kind.tag) = some kind := by
    cases kind <;> rfl
  exact decodes_oneOf Kind.all Kind.tag found

theorem decodes_metric (metric : Metric) : Decodes (toValue metric) OfTree.decode metric := by
  have found : Metric.all.find? (fun other => other.name == metric.name) = some metric := by
    cases metric <;> rfl
  exact decodes_oneOf Metric.all Metric.name found

theorem decodes_instant {t : Instant} (back : Instant.ofText? t.text = some t) :
    Decodes (toValue t) OfTree.decode t := by
  refine ⟨_, written_string t.text, ?_⟩
  change (Contents.string? (Text.spelling t.text)).bind Instant.ofText? = some t
  rw [string?_spelling, Option.bind_some]
  exact back

/-! ### Issues -/

theorem decodes_issue {issue : Issue} (line : ∀ n ∈ issue.line, n < wordSize 32) :
    Decodes (toValue issue) OfTree.decode issue :=
  decodes_record rfl (by decide) <|
    .required (decodes_kind issue.kind) <| .required (decodes_string issue.message) <|
    .withDefault (decodes_option rfl fun n here => decodes_nat (by decide) (line n here)) <|
    .done issue

/-! ### Counts by kind -/

namespace KindCounts

/-- Counts are in catalog order and count each kind once. -/
def InOrder (counts : KindCounts) : Prop :=
  counts.Pairwise fun a b => a.1.rank < b.1.rank

instance (counts : KindCounts) : Decidable counts.InOrder :=
  inferInstanceAs (Decidable (counts.Pairwise _))

theorem inOrder_all : Kind.all.Pairwise fun a b => a.rank < b.rank := by decide

theorem mem_all (kind : Kind) : kind ∈ Kind.all := by
  cases kind <;> decide

/-- Of counts in order the one for a kind is the only one for it. -/
theorem InOrder.unique {counts : KindCounts} (order : counts.InOrder) {a b : Kind × Nat}
    (first : a ∈ counts) (second : b ∈ counts) (same : a.1 = b.1) : a = b := by
  have distinct : (counts.map Prod.fst).Nodup := by
    refine List.pairwise_map.mpr (order.imp fun before equal => ?_)
    rw [equal] at before
    exact Nat.lt_irrefl _ before
  exact List.inj_on_of_nodup_map distinct first second same

/-- What is found for a kind is there, and is for that kind. -/
theorem of_find? {counts : KindCounts} {kind : Kind} {entry : Kind × Nat}
    (found : counts.reverse.find? (·.1 = kind) = some entry) : entry ∈ counts ∧ entry.1 = kind := by
  have same := List.find?_some found
  exact ⟨List.mem_reverse.mp (List.mem_of_find?_eq_some found), of_decide_eq_true same⟩

theorem InOrder.find? {counts : KindCounts} (order : counts.InOrder) {entry : Kind × Nat}
    (member : entry ∈ counts) : counts.reverse.find? (·.1 = entry.1) = some entry := by
  have some_found : (counts.reverse.find? (·.1 = entry.1)).isSome := by
    rw [List.find?_isSome]
    exact ⟨entry, List.mem_reverse.mpr member, decide_eq_true rfl⟩
  obtain ⟨other, found⟩ := Option.isSome_iff_exists.mp some_found
  obtain ⟨there, same⟩ := of_find? found
  rw [found, order.unique there member same]

/-- **Counts in catalog order are left as they are.** -/
theorem InOrder.ofMembers {counts : KindCounts} (order : counts.InOrder) :
    ofMembers counts = counts := by
  have kept : (KindCounts.ofMembers counts).InOrder := by
    refine List.Pairwise.filterMap _ ?_ inOrder_all
    intro kind later before entry found entry' found'
    rw [(of_find? found).2, (of_find? found').2]
    exact before
  -- Both are in catalog order, so they are equal when they have the same members.
  refine List.Pairwise.eq_of_mem_iff kept order fun entry => ?_
  rw [KindCounts.ofMembers, List.mem_filterMap]
  constructor
  · rintro ⟨kind, _, found⟩
    exact (of_find? found).1
  · intro member
    exact ⟨entry.1, mem_all _, order.find? member⟩

theorem decode_object {read : List (Contents × Tree)} {members : List (Kind × Nat)}
    (decoded : read.mapM (fun (key, value) => do
      let kind ← Kind.ofTag? (← Contents.string? key)
      return (kind, ← count value)) = some members) :
    decode (.object read) = some (ofMembers members) := by
  rw [decode, decoded]
  rfl

/-- **Counts by kind come back** in their catalog order. -/
theorem decodes_toValue {counts : KindCounts} (order : counts.InOrder)
    (fits : ∀ entry ∈ counts, entry.2 < wordSize 64) : Decodes counts.toValue decode counts := by
  let read : List (Contents × Tree) :=
    counts.map fun entry => (Text.spelling entry.1.tag, .number (.ofNat entry.2))
  refine ⟨.object read, written_object ?_, ?_⟩
  · refine List.forall₂_map_left_iff.mpr (List.forall₂_map_right_iff.mpr ?_)
    exact List.forall₂_same.mpr fun entry _ => ⟨rfl, written_nat entry.2⟩
  · refine (decode_object ?_).trans (congrArg some order.ofMembers)
    rw [List.mapM_map]
    refine (mapM_eq_map fun entry member => ?_).trans (congrArg some (List.map_id _))
    simp only [Function.comp_apply, string?_spelling, Kind.ofTag?_tag, count,
      nat_ofNat (Nat.le_refl 64) (fits entry member), Option.bind_eq_bind, Option.bind_some,
      Option.pure_def, id]

end KindCounts

/-! ### Records -/

section Records

variable {ν : Type} [ToValue ν] [OfTree ν]

/-- The fields of a unit's record are within the words that hold them, and the texts of its numbers
and of its instant read back. -/
structure UnitRecord.Storable (unit : UnitRecord ν) : Prop where
  linesOfCode : unit.linesOfCode < wordSize 64
  complexityScore : ofText? (toText unit.complexityScore) = some unit.complexityScore
  qualityScore : ofText? (toText unit.qualityScore) = some unit.qualityScore
  lines : ∀ issue ∈ unit.issues, ∀ n ∈ issue.line, n < wordSize 32
  createdAt : Instant.ofText? unit.createdAt.text = some unit.createdAt

/-- The fields of a group's record are within the words that hold them, its counts by kind are in
catalog order, and the texts of its numbers and of its instant read back. -/
structure GroupRecord.Storable (group : GroupRecord ν) : Prop where
  totalIssues : group.totalIssues < wordSize 64
  nodesWithIssues : group.nodesWithIssues < wordSize 64
  nodesWithCriticalIssues : group.nodesWithCriticalIssues < wordSize 64
  totalUnits : group.totalUnits < wordSize 64
  issueTypes : group.issueTypes.InOrder
  counts : ∀ entry ∈ group.issueTypes, entry.2 < wordSize 64
  qualityScore : ofText? (toText group.qualityScore) = some group.qualityScore
  complexityScore : ofText? (toText group.complexityScore) = some group.complexityScore
  createdAt : Instant.ofText? group.createdAt.text = some group.createdAt

/-- The memory of a sample is within the word that holds it, and the texts of its numbers and of its
instant read back. -/
structure Sample.Storable (sample : Sample ν) : Prop where
  timestamp : Instant.ofText? sample.timestamp.text = some sample.timestamp
  cpuPercent : ofText? (toText sample.cpuPercent) = some sample.cpuPercent
  memoryPercent : ofText? (toText sample.memoryPercent) = some sample.memoryPercent
  memoryBytes : sample.memoryBytes < wordSize 64
  eventLoopLagMs : ofText? (toText sample.eventLoopLagMs) = some sample.eventLoopLagMs

/-- The texts of the numbers of an alert and of its instant read back. -/
structure Alert.Storable (alert : Alert ν) : Prop where
  threshold : ofText? (toText alert.threshold) = some alert.threshold
  actual : ofText? (toText alert.actual) = some alert.actual
  durationMinutes : ofText? (toText alert.durationMinutes) = some alert.durationMinutes
  createdAt : Instant.ofText? alert.createdAt.text = some alert.createdAt

theorem UnitRecord.Storable.decodes {unit : UnitRecord ν} (storable : unit.Storable) :
    Decodes (toValue unit) OfTree.decode unit :=
  decodes_record rfl (by decide) <|
    .required (decodes_string unit.id) <| .required (decodes_string unit.groupId) <|
    .required (decodes_string unit.name) <| .required (decodes_count storable.linesOfCode) <|
    .required (decodes_iff_ofText?.mpr storable.complexityScore) <|
    .required (decodes_iff_ofText?.mpr storable.qualityScore) <|
    .required (decodes_list fun issue member => decodes_issue (storable.lines issue member)) <|
    .required (decodes_instant storable.createdAt) <| .done unit

theorem GroupRecord.Storable.decodes {group : GroupRecord ν} (storable : group.Storable) :
    Decodes (toValue group) OfTree.decode group :=
  decodes_record rfl (by decide) <|
    .required (decodes_string group.id) <| .required (decodes_string group.name) <|
    .required (decodes_count storable.totalIssues) <|
    .required (decodes_count storable.nodesWithIssues) <|
    .required (decodes_count storable.nodesWithCriticalIssues) <|
    .required (decodes_count storable.totalUnits) <|
    .withDefault (KindCounts.decodes_toValue storable.issueTypes storable.counts) <|
    .required (decodes_iff_ofText?.mpr storable.qualityScore) <|
    .required (decodes_iff_ofText?.mpr storable.complexityScore) <|
    .required (decodes_instant storable.createdAt) <| .done group

theorem Sample.Storable.decodes {sample : Sample ν} (storable : sample.Storable) :
    Decodes (toValue sample) OfTree.decode sample :=
  decodes_record rfl (by decide) <|
    .required (decodes_instant storable.timestamp) <|
    .required (decodes_iff_ofText?.mpr storable.cpuPercent) <|
    .required (decodes_iff_ofText?.mpr storable.memoryPercent) <|
    .required (decodes_count storable.memoryBytes) <|
    .required (decodes_iff_ofText?.mpr storable.eventLoopLagMs) <| .done sample

theorem Alert.Storable.decodes {alert : Alert ν} (storable : alert.Storable) :
    Decodes (toValue alert) OfTree.decode alert :=
  decodes_record rfl (by decide) <|
    .required (decodes_metric alert.metric) <|
    .required (decodes_iff_ofText?.mpr storable.threshold) <|
    .required (decodes_iff_ofText?.mpr storable.actual) <|
    .required (decodes_iff_ofText?.mpr storable.durationMinutes) <|
    .required (decodes_instant storable.createdAt) <| .done alert

end Records

end FlowAudit
