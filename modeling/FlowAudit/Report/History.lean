import FlowAudit.Log.Query
import FlowAudit.Number.Total
import FlowAudit.Record.Codec

/-!
# FlowAudit.Report.History

How quality went over the last hours: the records of groups, hour by hour. Their counts are added up
as words.
-/

namespace FlowAudit

open Json

/-- The records of groups of one hour. -/
structure HistoryPoint (ν : Type) where
  /-- The beginning of the hour. -/
  hour : Instant
  qualityScore : ν
  totalIssues : Nat
  totalUnits : Nat
  /-- The number of groups that have a record. -/
  activeGroups : Nat
  deriving Repr, DecidableEq

/-- Quality over a number of hours, oldest first. -/
structure QualityHistory (ν : Type) where
  hours : Int
  points : List (HistoryPoint ν)
  deriving Repr, DecidableEq

variable {ρ ν : Type}

/-- The instant a number of hours before now; the earliest one when there is no such instant. -/
def historyStart (hours : Int) (now : Instant) : Instant :=
  match Span.ofHours? hours with
  | some span => now.windowStart span
  | none => Instant.earliest

/-- The hours in which records were created, in order. -/
def recordedHours (records : List (GroupRecord ν)) : List Instant :=
  (records.map fun r => r.createdAt.hourStart).eraseDups.mergeSort fun a b => a ≤ b

section

variable [Scalar ν]

/-- The records of one hour put together. -/
def HistoryPoint.ofRecords (hour : Instant) (records : List (GroupRecord ν)) : HistoryPoint ν where
  hour
  qualityScore :=
    Scalar.round2 <|
      Scalar.sum (records.map GroupRecord.qualityScore) / Scalar.ofNat records.length
  totalIssues := wordTotal GroupRecord.totalIssues records
  totalUnits := wordTotal GroupRecord.totalUnits records
  activeGroups := (records.map GroupRecord.id).eraseDups.length

/-- Records hour by hour. -/
def historyPoints (records : List (GroupRecord ν)) : List (HistoryPoint ν) :=
  (recordedHours records).map fun hour =>
    .ofRecords hour (records.filter (·.createdAt.hourStart = hour))

/-- The history of a store. -/
def Store.qualityHistory [Stored ρ (GroupRecord ν)] (hours : Int) (now : Instant) :
    StoreM ρ (QualityHistory ν) := do
  let records ← Store.loadBetween .groups (historyStart hours now) now
  return { hours, points := historyPoints records }

end

instance [ToValue ν] : ToValue (HistoryPoint ν) where
  toValue p := .object
    [("hour", toValue p.hour), ("qualityScore", toValue p.qualityScore),
      ("totalIssues", .nat p.totalIssues), ("totalNodes", .nat p.totalUnits),
      ("activeFlows", .nat p.activeGroups)]

instance [ToValue ν] : ToValue (QualityHistory ν) where
  toValue h := .object [("hours", toValue h.hours), ("history", toValue h.points)]

end FlowAudit
