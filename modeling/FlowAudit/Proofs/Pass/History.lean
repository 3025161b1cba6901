import FlowAudit.Proofs.Log.Samples
import FlowAudit.Proofs.Pass.Account

/-!
# FlowAudit.Proofs.Pass.History

**A store after any number of scans.** Every scan of an export whose collector works adds the records of
the units that it analyses and then those of their groups. So a store that was empty and refuses nothing
holds, table by table, the records of all scans one after the other (`Recorded.of_passes`); and as long as
records are read back as they were written, a query sees just these records (`Recorded.run_latestGroup`,
`Recorded.run_latestUnits`).
-/

namespace FlowAudit

variable {ρ ν α : Type}

/-! ### Values of a table -/

theorem Log.newestFirst_appendAll (rule : KeyRule) (log : Log ρ) (values : List ρ) :
    (log.appendAll rule values).newestFirst = values.reverse ++ log.newestFirst := by
  induction values generalizing log with
  | nil => rfl
  | cons value rest ih =>
      rw [List.reverse_cons, List.append_assoc]
      exact ih _

namespace Store

/-- The values of a table, oldest first. -/
def written (store : Store ρ) (table : Table) : List ρ :=
  (store.logs.get table).newestFirst.reverse

theorem accepted_of_accepts {store : Store ρ}
    (accepts : ∀ before kind table, store.refuses before kind table = false) (table : Table)
    (records : List α) : store.accepted table records = records := by
  simp [accepted, accepts]

variable [Stored ρ α]

/-- A store that refuses nothing has all records at the end of their table. -/
theorem written_afterInserts {store : Store ρ}
    (accepts : ∀ before kind table, store.refuses before kind table = false) (table : Table)
    (records : List α) :
    (store.afterInserts table records).written table =
      store.written table ++ records.map Stored.write := by
  simp [written, afterInserts_logs, accepted_of_accepts accepts, Log.newestFirst_appendAll]

theorem written_afterInserts_of_ne (store : Store ρ) {table other : Table} (apart : other ≠ table)
    (records : List α) : (store.afterInserts table records).written other = store.written other := by
  rw [written, written, afterInserts_logs, Tables.get_set_other _ _ apart]

end Store

/-! ### Scans -/

/-- A scan to come, of an export whose collector works. -/
structure ScanPass where
  level : Level
  now : Instant
  /-- The time at which a unit is analysed, or the reason why its analysis fails. -/
  attempt : SourceUnit → Except String Instant
  groups : List GroupInfo
  units : List SourceUnit

section

variable [Scalar ν]

namespace ScanPass

/-- The records of the units that a scan analyses. -/
def unitRecords (pass : ScanPass) : List (UnitRecord ν) :=
  analysedUnits pass.groups (analysisAt pass.level pass.attempt) pass.units

/-- The records of the groups that a scan puts together. -/
def groupRecords (pass : ScanPass) : List (GroupRecord ν) :=
  FlowAudit.groupRecords pass.unitRecords pass.now pass.groups

/-- The units that a group has in a scan. -/
def unitsOf (pass : ScanPass) (id : String) : List (UnitRecord ν) :=
  FlowAudit.unitsOf pass.unitRecords id

/-- A group gets a record if and only if it has units. -/
theorem mem_groupRecords_ids (pass : ScanPass) (id : String) :
    id ∈ (pass.groupRecords : List (GroupRecord ν)).map GroupRecord.id ↔
      (pass.unitsOf id : List (UnitRecord ν)) ≠ [] := by
  rw [groupRecords, groupRecords_ids, unitsOf, ne_eq, unitsOf_eq_nil, not_not, List.mem_filter,
    List.mem_dedup, decide_eq_true_iff]
  refine ⟨fun h => h.2, fun found => ⟨?_, found⟩⟩
  obtain ⟨record, member, rfl⟩ := List.mem_map.mp found
  exact listed_of_mem_analysedUnits member

/-- Distinct units of an export have distinct records. -/
theorem nodup_unitsOf {pass : ScanPass} (distinct : (pass.units.map SourceUnit.id).Nodup)
    (id : String) : ((pass.unitsOf id : List (UnitRecord ν)).map UnitRecord.id).Nodup := by
  -- A record bears the identifier of its unit, so the records' identifiers are among the units'.
  have named : ((pass.unitRecords : List (UnitRecord ν)).map UnitRecord.id).Sublist
      (pass.units.map SourceUnit.id) := by
    have each (units : List SourceUnit) :
        ((units.filterMap fun unit =>
          (analysisAt (ν := ν) pass.level pass.attempt unit).toOption).map UnitRecord.id).Sublist
          (units.map SourceUnit.id) := by
      induction units with
      | nil => exact .slnil
      | cons unit rest ih =>
          rw [List.filterMap_cons]
          cases outcome : pass.attempt unit with
          | error reason => simpa [analysisAt, outcome, Except.map, Except.toOption] using ih.cons _
          | ok time =>
              simpa [analysisAt, outcome, Except.map, Except.toOption, SourceUnit.analyze] using ih
    exact (each _).trans (List.filter_sublist.map _)
  exact distinct.sublist ((List.filter_sublist.map _).trans named)

variable [Stored ρ (UnitRecord ν)] [Stored ρ (GroupRecord ν)]

/-- Carry out a scan; the state of the scanner after it. -/
def carryOut (ν : Type) [Scalar ν] [Stored ρ (UnitRecord ν)] [Stored ρ (GroupRecord ν)]
    (state : ScanState) (pass : ScanPass) : StateM (Store ρ) ScanState := do
  let ended ← scanWith (ν := ν) pass.level pass.now (analysisAt pass.level pass.attempt)
    { groups := .ok pass.groups, units := .ok pass.units } state
  return ended.2

variable (ρ ν) in
/-- The records of a scan are read back as they are written. -/
structure ReadsBack (pass : ScanPass) : Prop where
  units : ∀ record ∈ (pass.unitRecords : List (UnitRecord ν)),
    Stored.read? (Stored.write record : ρ) = some record
  groups : ∀ record ∈ (pass.groupRecords : List (GroupRecord ν)),
    Stored.read? (Stored.write record : ρ) = some record

end ScanPass

variable [Stored ρ (UnitRecord ν)] [Stored ρ (GroupRecord ν)]

variable (ν) in
/-- The store after scans, one after the other, by one scanner. -/
def Store.afterScans (store : Store ρ) (passes : List ScanPass) : Store ρ :=
  ((passes.foldlM (ScanPass.carryOut ν) .idle).run store).2

/-- A store that refuses nothing and holds the records of scans and no others. -/
structure Recorded (ν : Type) [Scalar ν] [Stored ρ (UnitRecord ν)] [Stored ρ (GroupRecord ν)]
    (store : Store ρ) (passes : List ScanPass) : Prop where
  accepts : ∀ before kind table, store.refuses before kind table = false
  units : store.written .units =
    (passes.flatMap ScanPass.unitRecords : List (UnitRecord ν)).map Stored.write
  groups : store.written .groups =
    (passes.flatMap ScanPass.groupRecords : List (GroupRecord ν)).map Stored.write

namespace Recorded

variable {store : Store ρ} {passes : List ScanPass}

/-- **One more scan adds its records**, and leaves the scanner idle. -/
theorem carryOut (recorded : Recorded ν store passes) (pass : ScanPass) :
    ((pass.carryOut ν .idle).run store).1 = .idle ∧
      Recorded ν ((pass.carryOut ν .idle).run store).2 (passes ++ [pass]) := by
  have opened : pass.carryOut (ρ := ρ) ν .idle =
      runPass pass.level pass.now (analysisAt (ν := ν) pass.level pass.attempt) pass.groups
        pass.units >>= fun _ => pure ScanState.idle := rfl
  have accepts : ∀ before kind table, (store.afterInserts .units
      (pass.unitRecords : List (UnitRecord ν))).refuses before kind table = false :=
    recorded.accepts
  rw [opened, StateT.run_bind, run_runPass]
  refine ⟨rfl, recorded.accepts, ?_, ?_⟩
  · show ((store.afterInserts .units pass.unitRecords).afterInserts .groups
      pass.groupRecords).written .units = _
    rw [Store.written_afterInserts_of_ne _ (by decide),
      Store.written_afterInserts recorded.accepts, recorded.units, ← List.map_append,
      List.flatMap_append, List.flatMap_singleton]
  · show ((store.afterInserts .units pass.unitRecords).afterInserts .groups
      pass.groupRecords).written .groups = _
    rw [Store.written_afterInserts accepts,
      Store.written_afterInserts_of_ne _ (by decide), recorded.groups, ← List.map_append,
      List.flatMap_append, List.flatMap_singleton]

theorem carryOutAll (recorded : Recorded ν store passes) (more : List ScanPass) :
    Recorded ν (store.afterScans ν more) (passes ++ more) := by
  induction more generalizing store passes with
  | nil =>
      rw [List.append_nil]
      exact recorded
  | cons pass rest ih =>
      obtain ⟨idle, added⟩ := recorded.carryOut pass
      have next := ih added
      rw [List.append_assoc, List.singleton_append] at next
      unfold Store.afterScans at next ⊢
      rw [List.foldlM_cons, StateT.run_bind]
      show Recorded ν ((rest.foldlM (ScanPass.carryOut ν) ((pass.carryOut ν .idle).run store).1).run
        ((pass.carryOut ν .idle).run store).2).2 _
      rw [idle]
      exact next

/-- A store that was empty holds the records of all scans. -/
theorem of_passes (keys : KeyRule) (traversal : Traversal) (passes : List ScanPass) :
    Recorded ν (({ keys, traversal } : Store ρ).afterScans ν passes) passes := by
  have empty : Recorded (ρ := ρ) ν { keys, traversal } [] := ⟨fun _ _ _ => rfl, rfl, rfl⟩
  exact empty.carryOutAll passes

theorem touched (recorded : Recorded ν store passes) : Recorded ν store.touched passes :=
  ⟨recorded.accepts, recorded.units, recorded.groups⟩

/-! ### Queries -/

omit [Scalar ν] [Stored ρ (UnitRecord ν)] [Stored ρ (GroupRecord ν)] in
/-- Where records are read back as they were written, a query that reads their table answers from them
alone. -/
theorem run_query {β : Type} [Stored ρ α] {store : Store ρ}
    (accepts : ∀ before kind table, store.refuses before kind table = false) {table : Table}
    {records : List α} (rows : store.written table = records.map Stored.write)
    (readBack : ∀ record ∈ records, Stored.read? (Stored.write record : ρ) = some record)
    (answer : List α → β) :
    (do return answer (← Store.load table) : StoreM ρ β).run.run store =
      (.ok (answer records), store.touched) := by
  have hold : Hold (store.written table) records := by
    rw [rows, Hold, List.forall₂_map_left_iff, List.forall₂_same]
    exact readBack
  exact Store.run_query (accepts _ _ _) hold answer

theorem run_latestGroup (recorded : Recorded ν store passes)
    (readBack : ∀ pass ∈ passes, pass.ReadsBack ρ ν) (id : String) :
    (Store.latestGroup id : StoreM ρ (Option (GroupRecord ν))).run.run store =
      (.ok ((passes.flatMap ScanPass.groupRecords).reverse.find? (·.id = id)), store.touched) := by
  refine run_query recorded.accepts recorded.groups (fun record member => ?_) _
  obtain ⟨pass, made, found⟩ := List.mem_flatMap.mp member
  exact (readBack pass made).groups record found

theorem run_latestUnits (recorded : Recorded ν store passes)
    (readBack : ∀ pass ∈ passes, pass.ReadsBack ρ ν) (id : String) :
    (Store.latestUnits id : StoreM ρ (List (UnitRecord ν))).run.run store =
      (.ok (latestBy UnitRecord.id (passes.flatMap (ScanPass.unitsOf · id))), store.touched) := by
  have inGroup : passes.flatMap (ScanPass.unitsOf · id) =
      (passes.flatMap ScanPass.unitRecords : List (UnitRecord ν)).filter (·.groupId = id) := by
    rw [List.filter_flatMap]
    rfl
  rw [inGroup]
  refine run_query recorded.accepts recorded.units (fun record member => ?_) _
  obtain ⟨pass, made, found⟩ := List.mem_flatMap.mp member
  exact (readBack pass made).units record found

end Recorded

end

end FlowAudit
