import FlowAudit.Rule.Detect
import FlowAudit.Score.Complexity
import FlowAudit.Score.Quality
import FlowAudit.Time.Instant

/-!
# FlowAudit.Record.Unit

Units of source and the record that analysing one gives.
-/

namespace FlowAudit

/-- A unit of source as an export gives it. -/
structure SourceUnit where
  groupId : String
  id : String
  name : String
  source : String
  deriving Repr, DecidableEq

/-- The result of analysing a unit once. -/
structure UnitRecord (ν : Type) where
  id : String
  groupId : String
  name : String
  linesOfCode : Nat
  complexityScore : ν
  qualityScore : ν
  issues : List Issue
  createdAt : Instant
  deriving Repr, DecidableEq

namespace UnitRecord

variable {ν : Type}

def issueCount (record : UnitRecord ν) : Nat :=
  record.issues.length

def hasCritical (record : UnitRecord ν) : Bool :=
  FlowAudit.hasCritical record.issues

end UnitRecord

/-- Analyse a unit at a level: find its issues and score it. -/
def SourceUnit.analyze {ν : Type} [Scalar ν] (unit : SourceUnit) (level : Level) (now : Instant) :
    UnitRecord ν :=
  let text := unit.source.toList
  let issues := detect level text
  { id := unit.id
    groupId := unit.groupId
    name := unit.name
    linesOfCode := Source.lineCount text
    complexityScore := Scalar.round2 (complexity text)
    qualityScore := Scalar.round2 (quality issues (Source.lineCount text))
    issues
    createdAt := now }

end FlowAudit
