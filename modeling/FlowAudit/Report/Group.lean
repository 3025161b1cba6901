import FlowAudit.Log.Query
import FlowAudit.Report.Issue

/-!
# FlowAudit.Report.Group

Everything on record of one group: its latest record, and the latest records of its units.
-/

namespace FlowAudit

open Json

/-- One unit of the group. -/
structure UnitDetail (ν : Type) where
  id : String
  name : String
  qualityScore : ν
  complexityScore : ν
  linesOfCode : Nat
  issues : List IssueView
  deriving Repr, DecidableEq

/-- Everything on record of one group. -/
structure GroupDetail (ν : Type) where
  id : String
  name : String
  qualityScore : ν
  grade : Grade
  complexityScore : ν
  totalIssues : Nat
  nodesWithIssues : Nat
  criticalNodes : Nat
  totalUnits : Nat
  issueTypes : KindCounts
  lastUpdated : Instant
  /-- The units, most issues first, then lowest quality. -/
  units : List (UnitDetail ν)
  deriving Repr, DecidableEq

variable {ρ ν : Type}

def UnitDetail.ofRecord (unit : UnitRecord ν) : UnitDetail ν where
  id := unit.id
  name := unit.name
  qualityScore := unit.qualityScore
  complexityScore := unit.complexityScore
  linesOfCode := unit.linesOfCode
  issues := unit.issues.map Issue.view

section

variable [Scalar ν]

/-- Most issues first, then lowest quality. -/
def worstFirst (units : List (UnitRecord ν)) : List (UnitRecord ν) :=
  units.mergeSort fun a b =>
    b.issueCount < a.issueCount
      || (a.issueCount = b.issueCount && Scalar.precedes a.qualityScore b.qualityScore)

/-- A group with its units. -/
def GroupDetail.ofRecords (bands : GradeBands ν) (group : GroupRecord ν)
    (units : List (UnitRecord ν)) : GroupDetail ν where
  id := group.id
  name := group.name
  qualityScore := group.qualityScore
  grade := bands.grade group.qualityScore
  complexityScore := group.complexityScore
  totalIssues := group.totalIssues
  nodesWithIssues := group.nodesWithIssues
  criticalNodes := group.nodesWithCriticalIssues
  totalUnits := group.totalUnits
  issueTypes := group.issueTypes
  lastUpdated := group.createdAt
  units := (worstFirst units).map .ofRecord

/-- Everything that a store has of a group, if it has a record of it. -/
def Store.groupDetail [Stored ρ (GroupRecord ν)] [Stored ρ (UnitRecord ν)] (id : String)
    (bands : GradeBands ν) : StoreM ρ (Option (GroupDetail ν)) := do
  match ← Store.latestGroup id with
  | none => return none
  | some group => return some (.ofRecords bands group (← Store.latestUnits id))

end

instance [ToValue ν] : ToValue (UnitDetail ν) where
  toValue u := .object
    [("id", .string u.id), ("name", .string u.name), ("issuesCount", .nat u.issues.length),
      ("qualityScore", toValue u.qualityScore), ("complexityScore", toValue u.complexityScore),
      ("linesOfCode", .nat u.linesOfCode), ("issues", toValue u.issues)]

instance [ToValue ν] : ToValue (GroupDetail ν) where
  toValue g := .object
    [("id", .string g.id), ("name", .string g.name), ("qualityScore", toValue g.qualityScore),
      ("qualityGrade", toValue g.grade), ("complexityScore", toValue g.complexityScore),
      ("totalIssues", .nat g.totalIssues), ("nodesWithIssues", .nat g.nodesWithIssues),
      ("criticalIssues", .nat g.criticalNodes), ("totalUnits", .nat g.totalUnits),
      ("issueTypes", g.issueTypes.toValue), ("lastUpdated", toValue g.lastUpdated),
      ("units", toValue g.units)]

end FlowAudit
