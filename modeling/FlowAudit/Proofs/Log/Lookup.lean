import FlowAudit.Proofs.Log.Latest
import FlowAudit.Proofs.Report.Group

/-!
# FlowAudit.Proofs.Log.Lookup

**Queries for the latest record of every key.** Records of groups and of units are never changed, and
each query has to find the last of all that have a key. The two for lists go over the records from the
oldest on and keep the latest; the two for one key go back from the newest. On a store whose rows are
all records they agree, and what they find is determined by the records alone (`Store.latest_queries`).

Groups are listed by name, and by identifier among equal names. Every identifier comes once, so no two
groups tie, and the order is strict.
-/

namespace FlowAudit

variable {ρ ν α β : Type}

/-! ### Groups by name -/

/-- A group comes before another in the list of groups. -/
def GroupRecord.Precedes (a b : GroupRecord ν) : Prop :=
  a.name < b.name ∨ a.name = b.name ∧ a.id < b.id

namespace GroupRecord

/-- The comparison that the list of groups is sorted by. -/
def before (a b : GroupRecord ν) : Bool :=
  a.name < b.name || (a.name = b.name && a.id ≤ b.id)

theorem before_iff {a b : GroupRecord ν} :
    a.before b ↔ a.name < b.name ∨ a.name = b.name ∧ a.id ≤ b.id := by
  simp only [before, Bool.or_eq_true, Bool.and_eq_true, decide_eq_true_eq]

theorem before_trans (a b c : GroupRecord ν) (first : a.before b) (second : b.before c) :
    a.before c := by
  rw [before_iff] at first second ⊢
  rcases first with less | ⟨same, le⟩ <;> rcases second with less' | ⟨same', le'⟩
  · exact Or.inl (String.lt_trans less less')
  · exact Or.inl (same' ▸ less)
  · exact Or.inl (same ▸ less')
  · exact Or.inr ⟨same.trans same', String.le_trans le le'⟩

theorem before_total (a b : GroupRecord ν) : a.before b || b.before a := by
  rw [Bool.or_eq_true, before_iff, before_iff]
  by_cases less : a.name < b.name
  · exact Or.inl (Or.inl less)
  by_cases greater : b.name < a.name
  · exact Or.inr (Or.inl greater)
  have same : a.name = b.name :=
    String.le_antisymm (String.not_lt.mp greater) (String.not_lt.mp less)
  rcases String.le_total a.id b.id with le | le
  · exact Or.inl (Or.inr ⟨same, le⟩)
  · exact Or.inr (Or.inr ⟨same.symm, le⟩)

/-- Groups with different identifiers do not tie. -/
theorem Precedes.of_before {a b : GroupRecord ν} (le : a.before b) (different : a.id ≠ b.id) :
    a.Precedes b := by
  rcases before_iff.mp le with less | ⟨same, le⟩
  · exact Or.inl less
  · refine Or.inr ⟨same, ?_⟩
    by_contra above
    exact different (String.le_antisymm le (String.not_lt.mp above))

/-- **Groups with distinct identifiers are sorted strictly.** -/
theorem pairwise_precedes {groups : List (GroupRecord ν)} (distinct : (groups.map id).Nodup) :
    (groups.mergeSort before).Pairwise Precedes := by
  have sorted := List.pairwise_mergeSort before_trans before_total groups
  have apart : ((groups.mergeSort before).map id).Nodup :=
    ((List.mergeSort_perm groups before).map id).nodup_iff.mpr distinct
  rw [List.Nodup, List.pairwise_map] at apart
  exact sorted.imp₂ (fun _ _ => Precedes.of_before) apart

end GroupRecord

/-! ### Stores whose rows are records -/

namespace Store

/-- A store that does not refuse to read a table, all of whose rows are records: those of a list, oldest
first. -/
structure Shows [Stored ρ α] (store : Store ρ) (table : Table) (records : List α) : Prop where
  answers : store.Answers table
  hold : Hold (store.logs.get table).newestFirst.reverse records

theorem Shows.run [Stored ρ α] {store : Store ρ} {table : Table} {records : List α}
    (shows : store.Shows table records) (answer : List α → β) :
    (do return answer (← load table) : StoreM ρ β).run.run store =
      (.ok (answer records), store.touched) :=
  run_query shows.answers shows.hold answer

variable [Stored ρ (GroupRecord ν)] [Stored ρ (UnitRecord ν)]

/-- **The last write of each key, once.** On a store whose rows of a table are all records:

* the latest groups are the last record of every identifier, each once, in the strict order of names and
  then identifiers;
* the latest record of a group is the one among them with its identifier, if there is one;
* the latest units of a group are the last of its records for every identifier, each once, in the order
  in which the identifiers first occur among its records;
* the latest record of a unit is the last with its identifier in any group, and there is none only where
  the identifier does not occur.

Times of creation play no part. -/
theorem latest_queries (store : Store ρ) :
    (∀ groups : List (GroupRecord ν), store.Shows .groups groups →
      ∃ latest, latestGroups.run.run store = (.ok latest, store.touched) ∧
        LatestOf GroupRecord.id groups latest ∧ latest.Pairwise GroupRecord.Precedes ∧
        ∀ id, (latestGroup id).run.run store = (.ok (latest.find? (·.id = id)), store.touched)) ∧
    (∀ units : List (UnitRecord ν), store.Shows .units units →
      (∀ group, ∃ latest, (latestUnits group).run.run store = (.ok latest, store.touched) ∧
        LatestOf UnitRecord.id (units.filter (·.groupId = group)) latest ∧
        FirstSeen UnitRecord.id (units.filter (·.groupId = group)) latest) ∧
      ∀ id, ∃ found, (latestUnit id).run.run store = (.ok found, store.touched) ∧
        (∀ unit, found = some unit ↔ LastOfKey UnitRecord.id units unit ∧ unit.id = id) ∧
        (found = none ↔ id ∉ units.map UnitRecord.id)) := by
  constructor
  · intro groups shows
    have once : ((latestBy GroupRecord.id groups).map GroupRecord.id).Nodup := nodup_latestBy groups
    have sorted : LatestOf GroupRecord.id groups
        ((latestBy GroupRecord.id groups).mergeSort GroupRecord.before) :=
      (latestOf_latestBy groups).perm (List.mergeSort_perm _ _).symm
    refine ⟨_, shows.run _, sorted, GroupRecord.pairwise_precedes once, fun id => ?_⟩
    have found : (latestGroup id).run.run store =
        (.ok (groups.reverse.find? (·.id = id)), store.touched) := shows.run _
    rw [found, sorted.find?_reverse]
    rfl
  · intro units shows
    constructor
    · intro group
      exact ⟨_, shows.run _, latestOf_latestBy _, latestBy_firstSeen _⟩
    · intro id
      exact ⟨_, shows.run _, fun _ => find?_reverse_eq_some, find?_reverse_eq_none⟩

/-- A group under a name, as it was on a day. -/
def groupNamed (id name : String) (day : Int) : GroupRecord ℚ where
  id
  name
  totalIssues := 0
  nodesWithIssues := 0
  nodesWithCriticalIssues := 0
  totalUnits := 1
  issueTypes := []
  qualityScore := 100
  complexityScore := 3
  createdAt := .onDay day 0 0

/-- A unit in a group, as it was on a day. -/
def unitIn (group id : String) (day : Int) : UnitRecord ℚ where
  id
  groupId := group
  name := id
  linesOfCode := 1
  complexityScore := 3
  qualityScore := 100
  issues := []
  createdAt := .onDay day 0 0

/-- The first group has a new name on record, of an earlier day. -/
def renamedGroups : List (GroupRecord ℚ) :=
  [groupNamed "a" "Mill" 3, groupNamed "b" "Kiln" 1, groupNamed "a" "Forge" 2]

/-- The first unit is on record again, with another group's unit of the same identifier behind it. -/
def movedUnits : List (UnitRecord ℚ) :=
  [unitIn "a" "x" 1, unitIn "a" "z" 1, unitIn "a" "x" 0, unitIn "b" "x" 1]

/-- A store with these records. -/
def repeatedStore : Store (UnitRecord ℚ ⊕ GroupRecord ℚ) :=
  (({ keys := .counting } : Store _).afterInserts .groups renamedGroups).afterInserts .units movedUnits

/-- The group is found under its new name, and both queries for units find what comes last. -/
theorem latest_queries_repeated :
    repeatedStore.Shows .groups renamedGroups ∧ repeatedStore.Shows .units movedUnits ∧
    (∃ latest, latestGroups.run.run repeatedStore = (.ok latest, repeatedStore.touched) ∧
      groupNamed "a" "Forge" 2 ∈ latest ∧ latest.Pairwise GroupRecord.Precedes ∧
      (latestGroup "a").run.run repeatedStore =
        (.ok (latest.find? (·.id = "a")), repeatedStore.touched)) ∧
    (∃ latest, (latestUnits "a").run.run repeatedStore = (.ok latest, repeatedStore.touched) ∧
      unitIn "a" "x" 0 ∈ latest ∧ (latest.map UnitRecord.id).Nodup) ∧
    (latestUnit "x").run.run repeatedStore =
      (.ok (some (unitIn "b" "x" 1)), repeatedStore.touched) := by
  have groups : repeatedStore.Shows .groups renamedGroups := ⟨rfl, hold_of_readRows rfl⟩
  have units : repeatedStore.Shows .units movedUnits := ⟨rfl, hold_of_readRows rfl⟩
  obtain ⟨ofGroups, ofUnits⟩ := latest_queries (ν := ℚ) repeatedStore
  obtain ⟨latest, listed, isLatest, order, one⟩ := ofGroups _ groups
  obtain ⟨inGroup, inAny⟩ := ofUnits _ units
  obtain ⟨latest', listed', isLatest', -⟩ := inGroup "a"
  obtain ⟨found, run, last, -⟩ := inAny "x"
  have renamed : LastOfKey GroupRecord.id renamedGroups (groupNamed "a" "Forge" 2) :=
    ⟨[groupNamed "a" "Mill" 3, groupNamed "b" "Kiln" 1], [], rfl, List.not_mem_nil⟩
  have again : LastOfKey UnitRecord.id (movedUnits.filter (·.groupId = "a")) (unitIn "a" "x" 0) :=
    ⟨[unitIn "a" "x" 1, unitIn "a" "z" 1], [], rfl, List.not_mem_nil⟩
  have moved : found = some (unitIn "b" "x" 1) :=
    (last _).mpr ⟨⟨movedUnits.take 3, [], rfl, List.not_mem_nil⟩, rfl⟩
  exact ⟨groups, units, ⟨latest, listed, (isLatest.last _).mpr renamed, order, one "a"⟩,
    ⟨latest', listed', (isLatest'.last _).mpr again, isLatest'.once⟩, moved ▸ run⟩

end Store

end FlowAudit
