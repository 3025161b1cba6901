import FlowAudit.Proofs.Pass.Account

/-!
# FlowAudit.Proofs.Pass.Retry

**A scan that fails leaves no trace** (`failed_scan_leaves_no_trace`). One that is refused because
another is running changes neither the store nor what the other one has reached. One whose collector
fails has written nothing and gives the scanner free, so that the next scan comes to what it would have
come to without the one before.

Two scans do not happen at the same time, and records bear the time at which they were made. *The same*
therefore means the same once all times are replaced by one (`PassReport.madeAt`); what a report is then
is the report of the pass at that time (`madeAt_passReport`).
-/

namespace FlowAudit

variable {ρ ν : Type}

/-! ### Records and reports at another time -/

/-- A record of a unit as if made at another time. -/
def UnitRecord.madeAt (record : UnitRecord ν) (time : Instant) : UnitRecord ν :=
  { record with createdAt := time }

/-- A record of a group as if made at another time. -/
def GroupRecord.madeAt (record : GroupRecord ν) (time : Instant) : GroupRecord ν :=
  { record with createdAt := time }

/-- A report as if all of its pass had happened at one time. -/
def PassReport.madeAt (report : PassReport ν) (time : Instant) : PassReport ν :=
  { report with
    startedAt := time
    units := report.units.map fun unit => { unit with record := unit.record.madeAt time }
    groups := report.groups.map (·.madeAt time) }

/-- Attempts to analyse units: each fails for a reason of the unit, or takes place at some time. -/
def attemptsBy (fails : SourceUnit → Option String) (clock : SourceUnit → Instant) :
    SourceUnit → Except String Instant :=
  fun unit =>
    match fails unit with
    | some reason => .error reason
    | none => .ok (clock unit)

/-- Refusals go by the place in the line and not by the record. -/
theorem Store.refused_map {α β : Type} (store : Store ρ) (table : Table) (f : α → β)
    (records : List α) :
    store.refused table (records.map f) = (store.refused table records).map f := by
  simp only [Store.refused, List.zipIdx_map, List.filter_map, List.map_map]
  rfl

theorem Store.refused_afterInserts_map {α β γ : Type} [Stored ρ α] [Stored ρ β] (store : Store ρ)
    (table table' : Table) (f : α → β) (records : List α) (others : List γ) :
    (store.afterInserts table (records.map f)).refused table' others =
      (store.afterInserts table records).refused table' others := by
  simp [Store.refused]

theorem unitOutcomes_map_madeAt (store : Store ρ) (records : List (UnitRecord ν)) (time : Instant) :
    (unitOutcomes store records).map
        (fun unit => { unit with record := unit.record.madeAt time }) =
      unitOutcomes store (records.map (·.madeAt time)) := by
  simp only [unitOutcomes, List.zipIdx_map, List.map_map]
  rfl

section

variable [Scalar ν]

/-- The times in the records of units do not show in the record of their group. -/
theorem aggregateGroup_madeAt (id name : String) (units : List (UnitRecord ν))
    (now time : Instant) :
    aggregateGroup id name (units.map (·.madeAt time)) time =
      (aggregateGroup id name units now).map (·.madeAt time) := by
  cases units with
  | nil => rfl
  | cons unit rest =>
      simp only [aggregateGroup, List.isEmpty_map, List.countP_map, List.map_map,
        List.length_map, totalOf_map, List.flatMap_map]
      rfl

theorem groupRecords_madeAt (records : List (UnitRecord ν)) (now time : Instant)
    (groups : List GroupInfo) :
    groupRecords (records.map (·.madeAt time)) time groups =
      (groupRecords records now groups).map (·.madeAt time) := by
  have units (id : String) : unitsOf (records.map (·.madeAt time)) id =
      (unitsOf records id).map (·.madeAt time) := by
    simp only [unitsOf, List.filter_map]
    rfl
  induction groups with
  | nil => rfl
  | cons group later ih =>
      rw [groupRecords_cons, groupRecords_cons, units, aggregateGroup_madeAt _ _ _ now, ih]
      by_cases again : group.id ∈ later.map GroupInfo.id
      · rw [if_pos again, if_pos again]
      · rw [if_neg again, if_neg again, List.map_append]
        cases aggregateGroup group.id group.name (unitsOf records group.id) now <;> rfl

variable (level : Level) (fails : SourceUnit → Option String) (groups : List GroupInfo)
  (units : List SourceUnit)

theorem analysedUnits_madeAt (clock : SourceUnit → Instant) (time : Instant) :
    (analysedUnits groups (analysisAt level (attemptsBy fails clock)) units).map (·.madeAt time) =
      analysedUnits groups (analysisAt (ν := ν) level (attemptsBy fails fun _ => time)) units := by
  rw [analysedUnits, analysedUnits, List.map_filterMap]
  refine List.filterMap_congr fun unit _ => ?_
  unfold analysisAt attemptsBy
  cases fails unit <;> rfl

theorem analysisFailures_congr_clock (clock clock' : SourceUnit → Instant) :
    analysisFailures groups (analysisAt (ν := ν) level (attemptsBy fails clock)) units =
      analysisFailures groups (analysisAt (ν := ν) level (attemptsBy fails clock')) units := by
  rw [analysisFailures, analysisFailures]
  refine List.filterMap_congr fun unit _ => ?_
  unfold analysisFailure analysisAt attemptsBy
  cases fails unit <;> rfl

variable [Stored ρ (UnitRecord ν)]

/-- **Another time, the same report.** -/
theorem madeAt_passReport (now : Instant) (clock : SourceUnit → Instant) (store : Store ρ)
    (time : Instant) :
    (passReport (ν := ν) level now groups (analysisAt level (attemptsBy fails clock)) units
        store).madeAt time =
      passReport level time groups (analysisAt level (attemptsBy fails fun _ => time)) units
        store := by
  have records := analysedUnits_madeAt (ν := ν) level fails groups units clock time
  have failures := analysisFailures_congr_clock (ν := ν) level fails groups units clock
    fun _ => time
  simp only [passReport, PassReport.withGroups, PassReport.withUnits, PassReport.madeAt,
    ← records, ← failures, List.nil_append, unitOutcomes_map_madeAt, groupRecords_madeAt _ now,
    Store.refused_map, Store.refused_afterInserts_map, List.length_map]

variable [Stored ρ (GroupRecord ν)]

/-! ### How a scan can end -/

/-- A store to which the records of a report were written, as far as it accepts them. -/
def Store.afterReport (store : Store ρ) (report : PassReport ν) : Store ρ :=
  (store.afterInserts .units (report.units.map UnitOutcome.record)).afterInserts .groups
    report.groups

theorem run_scanWith_of_ok (now : Instant) (analysis : Analysis ν) (store : Store ρ) :
    (scanWith level now analysis { groups := .ok groups, units := .ok units } .idle).run store =
      ((.ok (passReport level now groups analysis units store), .idle),
        store.afterReport (passReport level now groups analysis units store)) := by
  have opened : scanWith (ρ := ρ) level now analysis
      { groups := .ok groups, units := .ok units } .idle =
      runPass level now analysis groups units >>= fun report =>
        pure (.ok report, ScanState.idle) := rfl
  have written : storeAfterPass now groups analysis units store =
      store.afterReport (passReport level now groups analysis units store) := by
    show _ = (store.afterInserts .units
      ((unitOutcomes store (analysedUnits groups analysis units)).map UnitOutcome.record)).afterInserts
        .groups _
    rw [unitOutcomes_records]
    rfl
  rw [opened, StateT.run_bind, run_runPass, written]
  rfl

/-- **A scan ends in one of three ways.** It is refused, or its collector fails and it writes nothing,
or it is a pass. -/
theorem scanWith_cases (now : Instant) (analysis : Analysis ν) (source : Export)
    (state : ScanState) (store : Store ρ) :
    (state ≠ .idle ∧ (scanWith level now analysis source state).run store =
        ((.error .alreadyRunning, state), store)) ∨
      (state = .idle ∧ ∃ error, (scanWith level now analysis source state).run store =
        ((.error (.collector error), .idle), store)) ∨
      (state = .idle ∧ ∃ report, (scanWith level now analysis source state).run store =
        ((.ok report, .idle), store.afterReport report)) := by
  obtain ⟨collected, found⟩ := source
  cases state with
  | scanning => exact Or.inl ⟨nofun, rfl⟩
  | completing => exact Or.inl ⟨nofun, rfl⟩
  | idle =>
      cases collected with
      | error error => exact Or.inr (Or.inl ⟨rfl, error, rfl⟩)
      | ok groups =>
          cases found with
          | error error => exact Or.inr (Or.inl ⟨rfl, error, rfl⟩)
          | ok units =>
              exact Or.inr (Or.inr ⟨rfl, _,
                run_scanWith_of_ok level groups units now analysis store⟩)

/-! ### After a scan -/

/-- The result of a scan, the state of the scanner after it, and the store after it. -/
abbrev ScanEnd (ρ ν : Type) := (Except PassError (PassReport ν) × ScanState) × Store ρ

/-- Two scans of one store that both succeed and come to the same, at different times. -/
def SameScan (store : Store ρ) (first second : ScanEnd ρ ν) : Prop :=
  ∃ report report', first = ((.ok report, .idle), store.afterReport report) ∧
    second = ((.ok report', .idle), store.afterReport report') ∧
      ∀ time, report.madeAt time = report'.madeAt time

/-- The scans of an export with the same failures, at any two times, come to the same. -/
theorem sameScan (now now' : Instant) (clock clock' : SourceUnit → Instant) (store : Store ρ) :
    SameScan (ν := ν) store
      ((scanWith level now (analysisAt level (attemptsBy fails clock))
        { groups := .ok groups, units := .ok units } .idle).run store)
      ((scanWith level now' (analysisAt level (attemptsBy fails clock'))
        { groups := .ok groups, units := .ok units } .idle).run store) := by
  refine ⟨_, _, run_scanWith_of_ok level groups units now _ store,
    run_scanWith_of_ok level groups units now' _ store, fun time => ?_⟩
  rw [madeAt_passReport, madeAt_passReport]

/-- What a scan leaves behind that found a scanner in some state and a store. -/
structure LeavesNoTrace (state : ScanState) (store : Store ρ) (ended : ScanEnd ρ ν) : Prop where
  /-- A scan that fails leaves every table as it is, and with it all of the store. -/
  unwritten : ∀ error, ended.1.1 = .error error → ended.2 = store
  refused : ended.1.1 = .error .alreadyRunning ↔ state ≠ .idle
  /-- A scan in flight keeps its state. -/
  undisturbed : ended.1.1 = .error .alreadyRunning → ended.1.2 = state
  free : ended.1.1 ≠ .error .alreadyRunning → ended.1.2 = .idle
  /-- Unless it was refused, the next scan succeeds whose collector works. -/
  next : ended.1.1 ≠ .error .alreadyRunning →
    ∀ level now (analysis : Analysis ν) groups units, ∃ report,
      (scanWith level now analysis { groups := .ok groups, units := .ok units } ended.1.2).run
        ended.2 = ((.ok report, .idle), ended.2.afterReport report)
  /-- After one whose collector failed, it comes to what it comes to without that one. -/
  retry : ∀ error, ended.1.1 = .error (.collector error) →
    ∀ level now now' fails clock clock' groups units,
      SameScan (ν := ν) store
        ((scanWith level now (analysisAt level (attemptsBy fails clock))
          { groups := .ok groups, units := .ok units } ended.1.2).run ended.2)
        ((scanWith level now' (analysisAt level (attemptsBy fails clock'))
          { groups := .ok groups, units := .ok units } state).run store)

/-- **A scan that fails leaves no trace**, whatever the collector, the scanner and the store are like. -/
theorem failed_scan_leaves_no_trace (now : Instant) (analysis : Analysis ν) (source : Export)
    (state : ScanState) (store : Store ρ) :
    LeavesNoTrace state store ((scanWith level now analysis source state).run store) := by
  rcases scanWith_cases level now analysis source state store with
    ⟨busy, ended⟩ | ⟨rfl, error, ended⟩ | ⟨rfl, report, ended⟩
  · rw [ended]
    exact
      { unwritten := fun _ _ => rfl
        refused := ⟨fun _ => busy, fun _ => rfl⟩
        undisturbed := fun _ => rfl
        free := fun other => absurd rfl other
        next := fun other => absurd rfl other
        retry := nofun }
  · rw [ended]
    exact
      { unwritten := fun _ _ => rfl
        refused := ⟨nofun, fun busy => absurd rfl busy⟩
        undisturbed := nofun
        free := fun _ => rfl
        next := fun _ level now analysis groups units =>
          ⟨_, run_scanWith_of_ok level groups units now analysis store⟩
        retry := fun _ _ level now now' fails clock clock' groups units =>
          sameScan level fails groups units now now' clock clock' store }
  · rw [ended]
    exact
      { unwritten := nofun
        refused := ⟨nofun, fun busy => absurd rfl busy⟩
        undisturbed := nofun
        free := fun _ => rfl
        next := fun _ level now analysis groups units =>
          ⟨_, run_scanWith_of_ok level groups units now analysis (store.afterReport report)⟩
        retry := nofun }

end

end FlowAudit
