import FlowAudit.Report.Issue

/-!
# FlowAudit.Report.Unit

The analysis of one unit against the whole catalog, made afresh from its source.
-/

namespace FlowAudit

open Json

/-- The analysis of one unit. -/
structure UnitAnalysis (ν : Type) where
  id : String
  name : String
  groupId : String
  qualityScore : ν
  grade : Grade
  complexityScore : ν
  linesOfCode : Nat
  issues : List IssueView
  bySeverity : SeverityCounts
  status : Status
  deriving Repr, DecidableEq

variable {ν : Type}

/-- The analysis that a record of the unit gives. -/
def UnitAnalysis.ofRecord [Scalar ν] (bands : GradeBands ν) (unit : UnitRecord ν) :
    UnitAnalysis ν where
  id := unit.id
  name := unit.name
  groupId := unit.groupId
  qualityScore := unit.qualityScore
  grade := bands.grade unit.qualityScore
  complexityScore := unit.complexityScore
  linesOfCode := unit.linesOfCode
  issues := unit.issues.map Issue.view
  bySeverity := .ofIssues unit.issues
  status := .ofIssues unit.issues

/-- The analysis of a unit at the strictest level. -/
def SourceUnit.analysis [Scalar ν] (unit : SourceUnit) (bands : GradeBands ν) (now : Instant) :
    UnitAnalysis ν :=
  .ofRecord bands (unit.analyze .strict now)

instance [ToValue ν] : ToValue (UnitAnalysis ν) where
  toValue u := .object
    [("id", .string u.id), ("name", .string u.name), ("groupId", .string u.groupId),
      ("qualityScore", toValue u.qualityScore), ("qualityGrade", toValue u.grade),
      ("complexityScore", toValue u.complexityScore), ("linesOfCode", .nat u.linesOfCode),
      ("totalIssues", .nat u.issues.length), ("issues", toValue u.issues),
      ("issuesBySeverity", toValue u.bySeverity), ("status", toValue u.status)]

end FlowAudit
