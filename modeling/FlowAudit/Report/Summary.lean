import FlowAudit.Log.Query
import FlowAudit.Number.Total
import FlowAudit.Record.Codec

/-!
# FlowAudit.Report.Summary

The quality of everything on record. Every group counts once, with its latest record, and its score
weighs as much as it has units. With no units on record the average is a hundred: nothing was
scanned, so nothing is wrong. The counts were read from a store and are added up as words.
-/

namespace FlowAudit

open Json

/-- The totals over all groups. -/
structure QualityOverview (ν : Type) where
  averageScore : ν
  grade : Grade
  totalIssues : Nat
  totalGroups : Nat
  totalUnits : Nat
  nodesWithIssues : Nat
  criticalNodes : Nat
  /-- Issues for each unit. -/
  debtRatio : ν
  deriving Repr, DecidableEq

/-- One group in the summary. -/
structure GroupRow (ν : Type) where
  id : String
  name : String
  qualityScore : ν
  grade : Grade
  totalIssues : Nat
  nodesWithIssues : Nat
  nodesWithCriticalIssues : Nat
  totalUnits : Nat
  createdAt : Instant
  deriving Repr, DecidableEq

/-- The quality of everything on record. -/
structure QualitySummary (ν : Type) where
  overview : QualityOverview ν
  /-- The groups, newest record first. -/
  groups : List (GroupRow ν)
  deriving Repr, DecidableEq

variable {ρ ν : Type}

section

variable [Scalar ν]

/-- The mean score of groups, weighed by their units. -/
def averageScore (groups : List (GroupRecord ν)) : ν :=
  let units := wordTotal GroupRecord.totalUnits groups
  if units = 0 then Scalar.ofNat 100
  else
    Scalar.sum (groups.map fun g => g.qualityScore * Scalar.ofNat g.totalUnits)
      / Scalar.ofNat units

/-- Issues for each unit, to three places. -/
def debtRatio (issues units : Nat) : ν :=
  if units = 0 then Scalar.ofNat 0
  else Scalar.roundTo 1000 (Scalar.ofNat issues / Scalar.ofNat units)

/-- One group in the summary. -/
def GroupRow.ofRecord (bands : GradeBands ν) (group : GroupRecord ν) : GroupRow ν where
  id := group.id
  name := group.name
  qualityScore := Scalar.round2 group.qualityScore
  grade := bands.grade group.qualityScore
  totalIssues := group.totalIssues
  nodesWithIssues := group.nodesWithIssues
  nodesWithCriticalIssues := group.nodesWithCriticalIssues
  totalUnits := group.totalUnits
  createdAt := group.createdAt

/-- Newest record first, then by name. -/
def newestThenName (groups : List (GroupRecord ν)) : List (GroupRecord ν) :=
  groups.mergeSort fun a b =>
    b.createdAt < a.createdAt || (a.createdAt = b.createdAt && a.name ≤ b.name)

/-- The summary of the latest records of groups. -/
def QualitySummary.ofGroups (bands : GradeBands ν) (latest : List (GroupRecord ν)) :
    QualitySummary ν :=
  let groups := newestThenName latest
  let average := averageScore groups
  let issues := wordTotal GroupRecord.totalIssues groups
  let units := wordTotal GroupRecord.totalUnits groups
  { overview :=
      { averageScore := Scalar.round2 average
        grade := bands.grade average
        totalIssues := issues
        totalGroups := groups.length
        totalUnits := units
        nodesWithIssues := wordTotal GroupRecord.nodesWithIssues groups
        criticalNodes := wordTotal GroupRecord.nodesWithCriticalIssues groups
        debtRatio := debtRatio issues units }
    groups := groups.map (.ofRecord bands) }

/-- The summary of a store. -/
def Store.qualitySummary [Stored ρ (GroupRecord ν)] (bands : GradeBands ν) :
    StoreM ρ (QualitySummary ν) := do
  return .ofGroups bands (← Store.latestGroups)

end

instance [ToValue ν] : ToValue (QualityOverview ν) where
  toValue o := .object
    [("averageQualityScore", toValue o.averageScore), ("qualityGrade", toValue o.grade),
      ("totalIssues", .nat o.totalIssues), ("totalFlows", .nat o.totalGroups),
      ("totalFunctionNodes", .nat o.totalUnits), ("nodesWithIssues", .nat o.nodesWithIssues),
      ("criticalIssues", .nat o.criticalNodes), ("technicalDebtRatio", toValue o.debtRatio)]

instance [ToValue ν] : ToValue (GroupRow ν) where
  toValue row := .object
    [("id", .string row.id), ("name", .string row.name), ("qualityScore", toValue row.qualityScore),
      ("qualityGrade", toValue row.grade), ("totalIssues", .nat row.totalIssues),
      ("nodesWithIssues", .nat row.nodesWithIssues),
      ("nodesWithCriticalIssues", .nat row.nodesWithCriticalIssues),
      ("totalUnits", .nat row.totalUnits), ("createdAt", toValue row.createdAt)]

instance [ToValue ν] : ToValue (QualitySummary ν) where
  toValue s := .object [("summary", toValue s.overview), ("flows", toValue s.groups)]

end FlowAudit
