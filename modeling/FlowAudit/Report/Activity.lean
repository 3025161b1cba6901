import FlowAudit.Health.Codec
import FlowAudit.Health.Monitor
import FlowAudit.Pass.Run
import FlowAudit.Report.Alert

/-!
# FlowAudit.Report.Activity

What the program has just done: a scan, a tick of the monitor, the state of its store.
-/

namespace FlowAudit

open Json

/-- A unit that was scanned. -/
structure ScannedUnit (ν : Type) where
  id : String
  name : String
  groupId : String
  qualityScore : ν
  complexityScore : ν
  issues : Nat
  status : Status
  deriving Repr, DecidableEq

/-- A unit whose analysis failed. -/
structure FailedUnit where
  id : String
  reason : String
  deriving Repr, DecidableEq

/-- A scan. -/
structure ScanView (ν : Type) where
  startedAt : Instant
  level : Level
  durationMs : Nat
  groupsSeen : Nat
  totalIssues : Nat
  orphanedUnits : Nat
  persistFailures : Nat
  failedUnits : List FailedUnit
  groups : List (GroupRecord ν)
  units : List (ScannedUnit ν)
  deriving Repr, DecidableEq

/-- A tick of the monitor. -/
structure TickView (ν : Type) where
  tick : Nat
  sample : Option (Sample ν)
  persisted : Bool
  alerts : List (AlertView ν)
  pruned : Option PruneCounts
  deriving Repr, DecidableEq

/-- The state of a store and of the settings. -/
structure StoreStatus where
  /-- The file of the store, if it has one. -/
  database : Option String
  counts : Tables Nat
  problems : List String
  deriving Repr, DecidableEq

variable {ρ ν : Type}

def ScannedUnit.ofOutcome (unit : UnitOutcome ν) : ScannedUnit ν where
  id := unit.record.id
  name := unit.record.name
  groupId := unit.record.groupId
  qualityScore := unit.record.qualityScore
  complexityScore := unit.record.complexityScore
  issues := unit.record.issueCount
  status := unit.status

/-- A scan as it is shown. -/
def PassReport.view (report : PassReport ν) : ScanView ν where
  startedAt := report.startedAt
  level := report.level
  durationMs := report.durationMs
  groupsSeen := report.groupsSeen
  totalIssues := report.totalIssues
  orphanedUnits := report.orphanedUnits
  persistFailures := report.persistFailures
  failedUnits := report.failedUnits.map fun (id, reason) => { id, reason }
  groups := report.groups
  units := report.units.map .ofOutcome

/-- A tick as it is shown, with its number. -/
def TickReport.view [Scalar ν] (tick : Nat) (report : TickReport ν) : TickView ν where
  tick
  sample := report.sample
  persisted := report.persisted
  alerts := report.alerts.map Alert.view
  pruned := report.pruned

/-- The state of a store. -/
def Store.status (database : Option String) (problems : List String) : StoreM ρ StoreStatus := do
  return { database, counts := ← Store.counts, problems }

instance [ToValue ν] : ToValue (ScannedUnit ν) where
  toValue u := .object
    [("id", .string u.id), ("name", .string u.name), ("groupId", .string u.groupId),
      ("qualityScore", toValue u.qualityScore), ("complexityScore", toValue u.complexityScore),
      ("issues", .nat u.issues), ("status", toValue u.status)]

instance : ToValue FailedUnit where
  toValue u := .object [("id", .string u.id), ("reason", .string u.reason)]

instance [ToValue ν] : ToValue (ScanView ν) where
  toValue s := .object
    [("startedAt", toValue s.startedAt), ("detectionLevel", toValue s.level),
      ("durationMs", .nat s.durationMs), ("groupsSeen", .nat s.groupsSeen),
      ("unitsAnalyzed", .nat s.units.length), ("totalIssues", .nat s.totalIssues),
      ("orphanedUnits", .nat s.orphanedUnits), ("persistFailures", .nat s.persistFailures),
      ("failedUnits", toValue s.failedUnits), ("groups", toValue s.groups),
      ("units", toValue s.units)]

instance [ToValue ν] : ToValue (TickView ν) where
  toValue t := .object
    [("tick", .nat t.tick), ("sample", toValue t.sample), ("persisted", .bool t.persisted),
      ("alerts", toValue t.alerts), ("pruned", toValue t.pruned)]

instance : ToValue StoreStatus where
  toValue s := .object
    [("database", toValue s.database), ("counts", toValue s.counts),
      ("configProblems", toValue s.problems)]

end FlowAudit
