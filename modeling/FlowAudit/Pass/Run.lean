import FlowAudit.Export.Basic
import FlowAudit.Log.Query
import FlowAudit.Number.Total
import FlowAudit.Pass.Flight

/-!
# FlowAudit.Pass.Run

One pass over an export: every unit is analysed and its record stored, then every group is put
together from the records of its units and stored. A record that cannot be stored is counted and does
not stop the pass, and neither does a unit whose analysis fails. A pass that cannot get its groups
and units, or that finds another one running, does nothing at all.

Of several groups with one identifier the last one gets the units.
-/

namespace FlowAudit

/-- Why a pass does not take place. -/
inductive PassError where
  /-- Another pass is running. -/
  | alreadyRunning
  | collector (error : ExportError)
  deriving Repr, DecidableEq

/-- The words for it. -/
def PassError.message : PassError → String
  | alreadyRunning => "a scan is already running"
  | collector error => error.message

/-- A unit that was analysed. -/
structure UnitOutcome (ν : Type) where
  record : UnitRecord ν
  status : Status
  /-- Whether the record was stored. -/
  persisted : Bool
  deriving Repr, DecidableEq

/-- What a pass did. -/
structure PassReport (ν : Type) where
  startedAt : Instant
  level : Level
  groupsSeen : Nat
  units : List (UnitOutcome ν) := []
  /-- The records of the groups that have units. -/
  groups : List (GroupRecord ν) := []
  /-- The number of units whose group is not in the export. -/
  orphanedUnits : Nat := 0
  /-- The units whose analysis failed, with the reason. -/
  failedUnits : List (String × String) := []
  /-- The number of records that could not be stored. -/
  persistFailures : Nat := 0
  durationMs : Nat := 0
  deriving Repr, DecidableEq

/-- How a unit is analysed. An analysis may fail and then gives a reason. -/
abbrev Analysis (ν : Type) := SourceUnit → Except String (UnitRecord ν)

variable {ρ ν : Type}

namespace PassReport

def totalIssues (report : PassReport ν) : Nat :=
  totalOf (fun unit => unit.record.issueCount) report.units

end PassReport

/-- Analyse one unit, store its record, and report on it. -/
def passUnit [Stored ρ (UnitRecord ν)] (groups : List GroupInfo) (analysis : Analysis ν)
    (report : PassReport ν) (unit : SourceUnit) : StateM (Store ρ) (PassReport ν) := do
  if !groups.any (·.id = unit.groupId) then
    return { report with orphanedUnits := report.orphanedUnits + 1 }
  match analysis unit with
  | .error reason => return { report with failedUnits := report.failedUnits ++ [(unit.id, reason)] }
  | .ok record =>
    let persisted := (← Store.attempt (Store.insertUnit record)).isSome
    return { report with
      units := report.units ++ [{ record, status := .ofIssues record.issues, persisted }]
      persistFailures := report.persistFailures + if persisted then 0 else 1 }

/-- The records of groups, given the records of units. A group has none when no unit is its own. -/
def groupRecords [Scalar ν] (units : List (UnitRecord ν)) (now : Instant) :
    List GroupInfo → List (GroupRecord ν)
  | [] => []
  | group :: later =>
    if later.any (·.id = group.id) then groupRecords units now later
    else
      match aggregateGroup group.id group.name (units.filter (·.groupId = group.id)) now with
      | some record => record :: groupRecords units now later
      | none => groupRecords units now later

/-- Store the record of a group and report on it. -/
def passGroup [Stored ρ (GroupRecord ν)] (report : PassReport ν) (group : GroupRecord ν) :
    StateM (Store ρ) (PassReport ν) := do
  let persisted := (← Store.attempt (Store.insertGroup group)).isSome
  return { report with
    groups := report.groups ++ [group]
    persistFailures := report.persistFailures + if persisted then 0 else 1 }

/-- A pass over groups and units. It begins at `now` and the records of its groups are made at `now`, as if
no time went by between the two. The records of its units have the times that the analysis gives them. -/
def runPass [Scalar ν] [Stored ρ (UnitRecord ν)] [Stored ρ (GroupRecord ν)] (level : Level)
    (now : Instant) (analysis : Analysis ν) (groups : List GroupInfo) (units : List SourceUnit) :
    StateM (Store ρ) (PassReport ν) := do
  let start : PassReport ν := { startedAt := now, level, groupsSeen := groups.length }
  let scored ← units.foldlM (passUnit groups analysis) start
  let records := groupRecords (scored.units.map UnitOutcome.record) now groups
  records.foldlM passGroup scored

/-- A pass over an export, if there may be one, with an analysis that may fail: its report, and what
the scanner does afterwards. -/
def scanWith [Scalar ν] [Stored ρ (UnitRecord ν)] [Stored ρ (GroupRecord ν)] (level : Level)
    (now : Instant) (analysis : Analysis ν) (source : Export) (state : ScanState) :
    StateM (Store ρ) (Except PassError (PassReport ν) × ScanState) := do
  match state.start? with
  | none => return (.error .alreadyRunning, state)
  | some started =>
    match source.groups, source.units with
    | .error error, _ | .ok _, .error error => return (.error (.collector error), started.finish)
    | .ok groups, .ok units =>
      let report ← runPass level now analysis groups units
      return (.ok report, started.complete.finish)

/-- Analysis at a level, where each unit either fails, for some reason, or is analysed at some
instant. -/
def analysisAt [Scalar ν] (level : Level) (attempt : SourceUnit → Except String Instant) :
    Analysis ν :=
  fun unit => (attempt unit).map (unit.analyze level)

/-- A pass over an export in which no analysis fails: its report, and what the scanner does
afterwards. -/
def scan [Scalar ν] [Stored ρ (UnitRecord ν)] [Stored ρ (GroupRecord ν)] (level : Level)
    (now : Instant) (source : Export) (state : ScanState) :
    StateM (Store ρ) (Except PassError (PassReport ν) × ScanState) :=
  scanWith level now (analysisAt level fun _ => .ok now) source state

end FlowAudit
