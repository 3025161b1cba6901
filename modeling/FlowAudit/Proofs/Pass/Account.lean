import FlowAudit.Proofs.Log.Insertion
import FlowAudit.Proofs.Pass.Grouping

/-!
# FlowAudit.Proofs.Pass.Account

**A pass loses no unit and counts none twice**, whatever is in the export, whichever analyses fail and
whichever records the store refuses (`scan_accounts`). Every unit is an orphan, fails, or is analysed
and has an outcome; the groups are made from the analysed units; and the store gains the records that
it accepts, in order.

A pass is two loops. What the units of a list add to a report and to the store is added piece by
piece when the list is put together from pieces (`withUnits_append`), and one step of the first loop
is the case of a single unit. The second loop inserts and nothing else.
-/

namespace FlowAudit

variable {ρ ν : Type}

/-! ### What becomes of units -/

/-- Whether the group of a unit is in an export. -/
def listed (groups : List GroupInfo) (unit : SourceUnit) : Bool :=
  unit.groupId ∈ groups.map GroupInfo.id

/-- The records of the units that are analysed, in order. -/
def analysedUnits (groups : List GroupInfo) (analysis : Analysis ν) (units : List SourceUnit) :
    List (UnitRecord ν) :=
  (units.filter (listed groups)).filterMap fun unit => (analysis unit).toOption

/-- A unit whose analysis fails, with the reason. -/
def analysisFailure (analysis : Analysis ν) (unit : SourceUnit) : Option (String × String) :=
  match analysis unit with
  | .error reason => some (unit.id, reason)
  | .ok _ => none

/-- The units whose analysis fails, with the reasons, in order. -/
def analysisFailures (groups : List GroupInfo) (analysis : Analysis ν) (units : List SourceUnit) :
    List (String × String) :=
  (units.filter (listed groups)).filterMap (analysisFailure analysis)

/-- The outcomes of analysed units whose records a store is asked to insert one after the other. -/
def unitOutcomes (store : Store ρ) (records : List (UnitRecord ν)) : List (UnitOutcome ν) :=
  (records.zipIdx store.accesses).map fun entry =>
    { record := entry.1
      status := .ofIssues entry.1.issues
      persisted := !store.refuses entry.2 .append .units }

/-- An analysis gives a record or fails. -/
theorem length_analysed_add_failures (analysis : Analysis ν) (units : List SourceUnit) :
    (units.filterMap fun unit => (analysis unit).toOption).length +
      (units.filterMap (analysisFailure analysis)).length = units.length := by
  induction units with
  | nil => rfl
  | cons unit rest ih =>
      rw [List.filterMap_cons, List.filterMap_cons, analysisFailure, List.length_cons]
      cases analysis unit with
      | error reason =>
          show _ + (_ + 1) = _
          rw [← ih]
          rfl
      | ok record =>
          show (_ + 1) + _ = _
          rw [← ih, Nat.add_right_comm]

/-- A unit is an orphan, fails, or is analysed. -/
theorem units_partition (groups : List GroupInfo) (analysis : Analysis ν)
    (units : List SourceUnit) :
    (analysedUnits groups analysis units).length + units.countP (fun unit => !listed groups unit) +
      (analysisFailures groups analysis units).length = units.length := by
  have analyses := length_analysed_add_failures analysis (units.filter (listed groups))
  have orphans := List.length_eq_countP_add_countP (listed groups) (l := units)
  rw [List.countP_eq_length_filter] at orphans
  simp only [Bool.not_eq_true, Bool.decide_eq_false] at orphans
  unfold analysedUnits analysisFailures
  omega

theorem unitOutcomes_records (store : Store ρ) (records : List (UnitRecord ν)) :
    (unitOutcomes store records).map UnitOutcome.record = records := by
  rw [unitOutcomes, List.map_map]
  exact List.zipIdx_map_fst _ _

theorem length_unitOutcomes (store : Store ρ) (records : List (UnitRecord ν)) :
    (unitOutcomes store records).length = records.length := by
  rw [unitOutcomes, List.length_map, List.length_zipIdx]

variable [Stored ρ (UnitRecord ν)]

theorem unitOutcomes_append (store : Store ρ) (first second : List (UnitRecord ν)) :
    unitOutcomes store (first ++ second) =
      unitOutcomes store first ++ unitOutcomes (store.afterInserts .units first) second := by
  rw [unitOutcomes, List.zipIdx_append, List.map_append]
  rfl

/-! ### The loop over units -/

/-- A report to which units are added whose records a store is asked to insert. -/
def PassReport.withUnits (report : PassReport ν) (groups : List GroupInfo) (analysis : Analysis ν)
    (store : Store ρ) (units : List SourceUnit) : PassReport ν :=
  let records := analysedUnits groups analysis units
  { report with
    units := report.units ++ unitOutcomes store records
    orphanedUnits := report.orphanedUnits + units.countP fun unit => !listed groups unit
    failedUnits := report.failedUnits ++ analysisFailures groups analysis units
    persistFailures := report.persistFailures + (store.refused .units records).length }

variable (groups : List GroupInfo) (analysis : Analysis ν)

theorem withUnits_append (report : PassReport ν) (store : Store ρ)
    (first second : List SourceUnit) :
    report.withUnits groups analysis store (first ++ second) =
      (report.withUnits groups analysis store first).withUnits groups analysis
        (store.afterInserts .units (analysedUnits groups analysis first)) second := by
  simp only [PassReport.withUnits, analysedUnits, analysisFailures, List.filter_append,
    List.filterMap_append, unitOutcomes_append, List.countP_append, Store.refused_append,
    List.length_append, List.append_assoc, Nat.add_assoc]

/-- One step adds one unit. -/
theorem run_passUnit (report : PassReport ν) (unit : SourceUnit) (store : Store ρ) :
    (passUnit groups analysis report unit).run store =
      (report.withUnits groups analysis store [unit],
        store.afterInserts .units (analysedUnits groups analysis [unit])) := by
  have any : groups.any (·.id = unit.groupId) = listed groups unit :=
    any_id_eq groups unit.groupId
  unfold passUnit
  rw [any]
  cases known : listed groups unit with
  | false =>
      -- Neither an orphan nor a failed unit gets as far as the store.
      have none_analysed : analysedUnits groups analysis [unit] = [] := by
        simp [analysedUnits, known]
      have none_failed : analysisFailures groups analysis [unit] = [] := by
        simp [analysisFailures, known]
      have added : report.withUnits groups analysis store [unit] =
          { report with orphanedUnits := report.orphanedUnits + 1 } := by
        simp [PassReport.withUnits, none_analysed, none_failed, unitOutcomes, Store.refused, known]
      rw [added, none_analysed, Store.afterInserts_nil]
      rfl
  | true =>
      cases outcome : analysis unit with
      | error reason =>
          have none_analysed : analysedUnits groups analysis [unit] = [] := by
            simp [analysedUnits, known, outcome, Except.toOption]
          have one_failed : analysisFailures groups analysis [unit] = [(unit.id, reason)] := by
            simp [analysisFailures, analysisFailure, known, outcome]
          have added : report.withUnits groups analysis store [unit] =
              { report with failedUnits := report.failedUnits ++ [(unit.id, reason)] } := by
            simp [PassReport.withUnits, none_analysed, one_failed, unitOutcomes, Store.refused,
              known]
          rw [added, none_analysed, Store.afterInserts_nil]
          rfl
      | ok record =>
          have one_analysed : analysedUnits groups analysis [unit] = [record] := by
            simp [analysedUnits, known, outcome, Except.toOption]
          have none_failed : analysisFailures groups analysis [unit] = [] := by
            simp [analysisFailures, analysisFailure, known, outcome]
          have added : report.withUnits groups analysis store [unit] =
              { report with
                units := report.units ++ unitOutcomes store [record]
                persistFailures :=
                  report.persistFailures + (store.refused .units [record]).length } := by
            simp [PassReport.withUnits, one_analysed, none_failed, known]
          rw [added, one_analysed]
          rw [Store.length_refused_singleton]
          let next (persisted : Bool) : StateM (Store ρ) (PassReport ν) :=
            return { report with
              units := report.units ++ [{ record, status := .ofIssues record.issues, persisted }]
              persistFailures := report.persistFailures + if persisted then 0 else 1 }
          exact Store.run_attempt_insert_bind .units record next store

theorem analysedUnits_append (first second : List SourceUnit) :
    analysedUnits groups analysis (first ++ second) =
      analysedUnits groups analysis first ++ analysedUnits groups analysis second := by
  rw [analysedUnits, List.filter_append, List.filterMap_append]
  rfl

/-- The loop adds all units. -/
theorem run_passUnits (units : List SourceUnit) (report : PassReport ν) (store : Store ρ) :
    (units.foldlM (passUnit groups analysis) report).run store =
      (report.withUnits groups analysis store units,
        store.afterInserts .units (analysedUnits groups analysis units)) := by
  induction units generalizing report store with
  | nil =>
      have nothing : report.withUnits groups analysis store [] = report := by
        simp [PassReport.withUnits, analysedUnits, analysisFailures, unitOutcomes, Store.refused]
      have same : store.afterInserts .units (analysedUnits groups analysis []) = store :=
        store.afterInserts_nil .units
      rw [nothing, same]
      rfl
  | cons unit rest ih =>
      have cut : unit :: rest = [unit] ++ rest := rfl
      rw [List.foldlM_cons, StateT.run_bind, run_passUnit]
      refine (ih _ _).trans ?_
      rw [cut, withUnits_append, analysedUnits_append, Store.afterInserts_append]

/-! ### The loop over groups -/

variable [Stored ρ (GroupRecord ν)]

/-- A report to which records of groups are added that a store is asked to insert. -/
def PassReport.withGroups (report : PassReport ν) (store : Store ρ)
    (records : List (GroupRecord ν)) : PassReport ν :=
  { report with
    groups := report.groups ++ records
    persistFailures := report.persistFailures + (store.refused .groups records).length }

omit [Stored ρ (UnitRecord ν)] in
theorem withGroups_append (report : PassReport ν) (store : Store ρ)
    (first second : List (GroupRecord ν)) :
    report.withGroups store (first ++ second) =
      (report.withGroups store first).withGroups (store.afterInserts .groups first) second := by
  simp only [PassReport.withGroups, Store.refused_append, List.length_append, List.append_assoc,
    Nat.add_assoc]

omit [Stored ρ (UnitRecord ν)] in
theorem run_passGroup (report : PassReport ν) (group : GroupRecord ν) (store : Store ρ) :
    (passGroup report group).run store =
      (report.withGroups store [group], store.afterInserts .groups [group]) := by
  rw [PassReport.withGroups, Store.length_refused_singleton]
  let next (persisted : Bool) : StateM (Store ρ) (PassReport ν) :=
    return { report with
      groups := report.groups ++ [group]
      persistFailures := report.persistFailures + if persisted then 0 else 1 }
  exact Store.run_attempt_insert_bind .groups group next store

omit [Stored ρ (UnitRecord ν)] in
/-- The loop adds all records. -/
theorem run_passGroups (records : List (GroupRecord ν)) (report : PassReport ν)
    (store : Store ρ) :
    (records.foldlM passGroup report).run store =
      (report.withGroups store records, store.afterInserts .groups records) := by
  induction records generalizing report store with
  | nil =>
      have nothing : report.withGroups store [] = report := by
        simp [PassReport.withGroups, Store.refused]
      rw [nothing, Store.afterInserts_nil]
      rfl
  | cons record rest ih =>
      have cut : record :: rest = [record] ++ rest := rfl
      rw [List.foldlM_cons, StateT.run_bind, run_passGroup]
      refine (ih _ _).trans ?_
      rw [cut, withGroups_append, Store.afterInserts_append]

/-! ### The whole pass -/

/-- What a report has to say for itself, and what the store has to hold after the pass. -/
structure PassReport.Accounts [Scalar ν] (report : PassReport ν) (now : Instant)
    (groups : List GroupInfo) (analysis : Analysis ν) (units : List SourceUnit)
    (store after : Store ρ) : Prop where
  /-- No unit is lost and none is counted twice. -/
  complete :
    report.units.length + report.orphanedUnits + report.failedUnits.length = units.length
  orphans :
    report.orphanedUnits = units.countP fun unit => unit.groupId ∉ groups.map GroupInfo.id
  failures : report.failedUnits = analysisFailures groups analysis units
  outcomes : report.units = unitOutcomes store (analysedUnits groups analysis units)
  /-- A group has a record if it has an analysed unit, at its last place in the export. -/
  groupIds :
    report.groups.map GroupRecord.id = (groups.map GroupInfo.id).dedup.filter fun id =>
      id ∈ (analysedUnits groups analysis units).map UnitRecord.groupId
  /-- The record is made from all analysed units of the group, stored or not. -/
  groupRecords : ∀ record ∈ report.groups, ∃ before group later,
    groups = before ++ group :: later ∧ group.id ∉ later.map GroupInfo.id ∧
      aggregateGroup group.id group.name
        (unitsOf (analysedUnits groups analysis units) group.id) now = some record
  totalUnits : totalOf GroupRecord.totalUnits report.groups = report.units.length
  totalIssues : totalOf GroupRecord.totalIssues report.groups = report.totalIssues
  /-- Every record that the store refuses is counted. -/
  persistFailures :
    report.persistFailures = (store.refused .units (analysedUnits groups analysis units)).length +
      ((store.afterInserts .units (analysedUnits groups analysis units)).refused .groups
        report.groups).length
  /-- The store gains what it accepts, and is otherwise as before. -/
  stored :
    after = (store.afterInserts .units (analysedUnits groups analysis units)).afterInserts .groups
      report.groups

/-- The report of a pass over groups and units. -/
def passReport [Scalar ν] (level : Level) (now : Instant) (groups : List GroupInfo)
    (analysis : Analysis ν) (units : List SourceUnit) (store : Store ρ) : PassReport ν :=
  let start : PassReport ν := { startedAt := now, level, groupsSeen := groups.length }
  let records := analysedUnits groups analysis units
  (start.withUnits groups analysis store units).withGroups (store.afterInserts .units records)
    (groupRecords records now groups)

/-- The store after a pass over groups and units. -/
def storeAfterPass [Scalar ν] (now : Instant) (groups : List GroupInfo) (analysis : Analysis ν)
    (units : List SourceUnit) (store : Store ρ) : Store ρ :=
  let records := analysedUnits groups analysis units
  (store.afterInserts .units records).afterInserts .groups (groupRecords records now groups)

theorem run_runPass [Scalar ν] (level : Level) (now : Instant) (groups : List GroupInfo)
    (analysis : Analysis ν) (units : List SourceUnit) (store : Store ρ) :
    (runPass level now analysis groups units).run store =
      (passReport level now groups analysis units store,
        storeAfterPass now groups analysis units store) := by
  let start : PassReport ν := { startedAt := now, level, groupsSeen := groups.length }
  -- The second loop takes its records from the outcomes of the first.
  have made : (start.withUnits groups analysis store units).units.map UnitOutcome.record =
      analysedUnits groups analysis units := unitOutcomes_records store _
  unfold runPass
  rw [StateT.run_bind, run_passUnits]
  show ((groupRecords ((start.withUnits groups analysis store units).units.map UnitOutcome.record)
    now groups).foldlM passGroup _).run _ = _
  rw [run_passGroups, made]
  rfl

/-- A report accounts for a pass whose analysed units belong to groups of the export. -/
theorem accounts_passReport [Scalar ν] (level : Level) (now : Instant) (groups : List GroupInfo)
    (analysis : Analysis ν) (units : List SourceUnit) (store : Store ρ)
    (belong : ∀ record ∈ analysedUnits groups analysis units,
      record.groupId ∈ groups.map GroupInfo.id) :
    (passReport level now groups analysis units store).Accounts now groups analysis units store
      (storeAfterPass now groups analysis units store) where
  complete := by
    show (unitOutcomes store (analysedUnits groups analysis units)).length + (0 + _) + _ = _
    rw [length_unitOutcomes, Nat.zero_add]
    exact units_partition groups analysis units
  orphans := by
    refine (Nat.zero_add _).trans (List.countP_congr fun unit _ => ?_)
    rw [listed, Bool.not_eq_true', decide_eq_false_iff_not, decide_eq_true_iff]
  failures := rfl
  outcomes := rfl
  groupIds := groupRecords_ids _ now groups
  groupRecords := fun _ member => mem_groupRecords _ now member
  totalUnits := by
    have total := totalOf_groupRecords _ now GroupRecord.totalUnits (fun _ => 1)
      (fun _ _ _ _ made => (totals_of_aggregateGroup made).1) belong
    exact total.trans ((totalOf_one _).trans (length_unitOutcomes store _).symm)
  totalIssues := by
    have total := totalOf_groupRecords _ now GroupRecord.totalIssues UnitRecord.issueCount
      (fun _ _ _ _ made => (totals_of_aggregateGroup made).2) belong
    refine total.trans ?_
    rw [← unitOutcomes_records store (analysedUnits groups analysis units), totalOf_map]
    rfl
  persistFailures := by
    show 0 + _ + _ = _
    rw [Nat.zero_add]
    rfl
  stored := rfl

/-- Analysed units belong to groups of the export. -/
theorem listed_of_mem_analysedUnits [Scalar ν] {level : Level}
    {attempt : SourceUnit → Except String Instant} {groups : List GroupInfo}
    {units : List SourceUnit} {record : UnitRecord ν}
    (member : record ∈ analysedUnits groups (analysisAt level attempt) units) :
    record.groupId ∈ groups.map GroupInfo.id := by
  obtain ⟨unit, known, analysed⟩ := List.mem_filterMap.mp member
  have inExport : unit.groupId ∈ groups.map GroupInfo.id :=
    of_decide_eq_true (List.mem_filter.mp known).2
  cases outcome : attempt unit with
  | error reason =>
      rw [analysisAt, outcome] at analysed
      cases analysed
  | ok instant =>
      rw [analysisAt, outcome] at analysed
      cases analysed
      exact inExport

/-- **A pass loses no unit and counts none twice.** For any export, any level, any analyses that fail
and any store, whatever it refuses, a scanner that is idle comes to a report that accounts for all
units and for the store. `scan` is the case in which no analysis fails. -/
theorem scan_accounts [Scalar ν] (level : Level) (now : Instant)
    (attempt : SourceUnit → Except String Instant) (groups : List GroupInfo)
    (units : List SourceUnit) (store : Store ρ) :
    ∃ (report : PassReport ν) (after : Store ρ),
      (scanWith level now (analysisAt level attempt)
        { groups := .ok groups, units := .ok units } .idle).run store =
          ((.ok report, .idle), after) ∧
      report.Accounts now groups (analysisAt level attempt) units store after := by
  let analysis : Analysis ν := analysisAt level attempt
  refine ⟨passReport level now groups analysis units store,
    storeAfterPass now groups analysis units store, ?_,
    accounts_passReport level now groups analysis units store
      fun _ member => listed_of_mem_analysedUnits member⟩
  have opened : scanWith (ρ := ρ) level now analysis
      { groups := .ok groups, units := .ok units } .idle =
      runPass level now analysis groups units >>= fun report =>
        pure (.ok report, ScanState.idle) := rfl
  rw [opened, StateT.run_bind, run_runPass]
  rfl

end FlowAudit
