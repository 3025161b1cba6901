import FlowAudit.Pass.Run
import FlowAudit.Proofs.Number.Total
import Mathlib.Data.List.Dedup

/-!
# FlowAudit.Proofs.Pass.Grouping

**Every record of a unit goes into the record of one group.** An export may name an identifier more
than once; the group that counts is the last with it. `groupRecords_ids` says which groups get a
record and in which order, `mem_groupRecords` from what each is made, and `totalOf_groupRecords` that
what they add up from the units is added up from each unit once.
-/

namespace FlowAudit

variable {ν : Type}

/-- The units of a group. -/
def unitsOf (records : List (UnitRecord ν)) (id : String) : List (UnitRecord ν) :=
  records.filter (·.groupId = id)

theorem unitsOf_eq_nil (records : List (UnitRecord ν)) (id : String) :
    unitsOf records id = [] ↔ id ∉ records.map UnitRecord.groupId := by
  rw [unitsOf, List.filter_eq_nil_iff, List.mem_map]
  simp

theorem any_id_eq (groups : List GroupInfo) (id : String) :
    groups.any (·.id = id) = decide (id ∈ groups.map GroupInfo.id) := by
  rw [Bool.eq_iff_iff, List.any_eq_true, decide_eq_true_iff, List.mem_map]
  simp

variable [Scalar ν]

/-- A record is made of units, and of nothing else: there is none without units, and a record counts
each of its units once. -/
theorem aggregateGroup_cases (id name : String) (units : List (UnitRecord ν)) (now : Instant) :
    (units = [] ∧ aggregateGroup id name units now = none) ∨
      ∃ record, units ≠ [] ∧ aggregateGroup id name units now = some record ∧ record.id = id ∧
        record.totalUnits = units.length ∧
        record.totalIssues = totalOf UnitRecord.issueCount units := by
  cases units with
  | nil => exact Or.inl ⟨rfl, rfl⟩
  | cons unit rest => exact Or.inr ⟨_, List.cons_ne_nil unit rest, rfl, rfl, rfl, rfl⟩

theorem totals_of_aggregateGroup {id name : String} {units : List (UnitRecord ν)} {now : Instant}
    {record : GroupRecord ν} (made : aggregateGroup id name units now = some record) :
    record.totalUnits = totalOf (fun _ => 1) units ∧
      record.totalIssues = totalOf UnitRecord.issueCount units := by
  rcases aggregateGroup_cases id name units now with
    ⟨-, absent⟩ | ⟨_, -, present, -, totalUnits, totalIssues⟩
  · rw [absent] at made
    cases made
  · rw [present] at made
    cases made
    exact ⟨totalUnits.trans (totalOf_one units).symm, totalIssues⟩

variable (records : List (UnitRecord ν)) (now : Instant)

theorem groupRecords_cons (group : GroupInfo) (later : List GroupInfo) :
    groupRecords records now (group :: later) =
      if group.id ∈ later.map GroupInfo.id then groupRecords records now later
      else (aggregateGroup group.id group.name (unitsOf records group.id) now).toList ++
        groupRecords records now later := by
  rw [groupRecords, any_id_eq]
  by_cases again : group.id ∈ later.map GroupInfo.id
  · rw [if_pos (decide_eq_true again), if_pos again]
  · rw [if_neg (by simpa using again), if_neg again, unitsOf]
    cases aggregateGroup group.id group.name (records.filter (·.groupId = group.id)) now <;> rfl

/-- The groups that get a record are those with units, each at its last place in the export. -/
theorem groupRecords_ids (groups : List GroupInfo) :
    (groupRecords records now groups).map GroupRecord.id =
      (groups.map GroupInfo.id).dedup.filter fun id => id ∈ records.map UnitRecord.groupId := by
  induction groups with
  | nil => rfl
  | cons group later ih =>
      rw [groupRecords_cons, List.map_cons]
      by_cases again : group.id ∈ later.map GroupInfo.id
      · rw [if_pos again, List.dedup_cons_of_mem again, ih]
      · rw [if_neg again, List.dedup_cons_of_notMem again, List.map_append, ih, List.filter_cons]
        rcases aggregateGroup_cases group.id group.name (unitsOf records group.id) now with
          ⟨empty, made⟩ | ⟨record, nonempty, made, named, -⟩
        · rw [unitsOf_eq_nil] at empty
          rw [made, if_neg (by simpa using empty)]
          rfl
        · rw [ne_eq, unitsOf_eq_nil, not_not] at nonempty
          rw [made, if_pos (decide_eq_true nonempty), ← named]
          rfl

/-- A record of a group is made from the group that is the last with its identifier and from the
units of that group. -/
theorem mem_groupRecords {groups : List GroupInfo} {record : GroupRecord ν}
    (member : record ∈ groupRecords records now groups) :
    ∃ before group later, groups = before ++ group :: later ∧
      group.id ∉ later.map GroupInfo.id ∧
      aggregateGroup group.id group.name (unitsOf records group.id) now = some record := by
  induction groups with
  | nil => exact absurd member List.not_mem_nil
  | cons first rest ih =>
      have further (found : record ∈ groupRecords records now rest) :
          ∃ before group later, first :: rest = before ++ group :: later ∧
            group.id ∉ later.map GroupInfo.id ∧
            aggregateGroup group.id group.name (unitsOf records group.id) now = some record := by
        obtain ⟨before, group, later, cut, last, made⟩ := ih found
        exact ⟨first :: before, group, later, by rw [cut, List.cons_append], last, made⟩
      rw [groupRecords_cons] at member
      by_cases again : first.id ∈ rest.map GroupInfo.id
      · rw [if_pos again] at member
        exact further member
      · rw [if_neg again, List.mem_append, Option.mem_toList] at member
        -- Either the record is that of the first group, or it comes from the rest of the export.
        rcases member with made | found
        · exact ⟨[], first, rest, rfl, again, made⟩
        · exact further found

/-- What the records of groups add up, class by class. -/
theorem totalOf_groupRecords_eq (count : GroupRecord ν → Nat) (weight : UnitRecord ν → Nat)
    (adds : ∀ id name units record, aggregateGroup id name units now = some record →
      count record = totalOf weight units) (groups : List GroupInfo) :
    totalOf count (groupRecords records now groups) =
      totalOf (fun id => totalOf weight (unitsOf records id)) (groups.map GroupInfo.id).dedup := by
  induction groups with
  | nil => rfl
  | cons group later ih =>
      rw [groupRecords_cons, List.map_cons]
      by_cases again : group.id ∈ later.map GroupInfo.id
      · rw [if_pos again, List.dedup_cons_of_mem again, ih]
      · rw [if_neg again, List.dedup_cons_of_notMem again, totalOf, ← ih]
        rcases aggregateGroup_cases group.id group.name (unitsOf records group.id) now with
          ⟨empty, made⟩ | ⟨record, -, made, -⟩
        · rw [made, empty, totalOf, Nat.zero_add]
          rfl
        · rw [made, ← adds _ _ _ _ made]
          rfl

/-- **What records of groups add up from their units they add up from each unit once**, as long as
the groups of all units are in the export. -/
theorem totalOf_groupRecords {groups : List GroupInfo} (count : GroupRecord ν → Nat)
    (weight : UnitRecord ν → Nat)
    (adds : ∀ id name units record, aggregateGroup id name units now = some record →
      count record = totalOf weight units)
    (listed : ∀ record ∈ records, record.groupId ∈ groups.map GroupInfo.id) :
    totalOf count (groupRecords records now groups) = totalOf weight records := by
  rw [totalOf_groupRecords_eq records now count weight adds]
  refine totalOf_classes UnitRecord.groupId weight (List.nodup_dedup _) fun record member => ?_
  rw [List.mem_dedup]
  exact listed record member

end FlowAudit
