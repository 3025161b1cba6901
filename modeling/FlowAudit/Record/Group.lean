import FlowAudit.Number.Total
import FlowAudit.Record.Unit

/-!
# FlowAudit.Record.Group

The record of a group of units, made from the records of its units alone. A group's quality is the
mean of its units' and is capped while any of them has a critical issue.
-/

namespace FlowAudit

/-- How often each kind of issue occurs, in catalog order. -/
abbrev KindCounts := List (Kind × Nat)

/-- The kinds that occur among issues, with how often they do. -/
def KindCounts.ofIssues (issues : List Issue) : KindCounts :=
  (Kind.all.map fun kind => (kind, issues.countP (·.kind == kind))).filter (·.2 ≠ 0)

/-- The result of analysing the units of a group once. -/
structure GroupRecord (ν : Type) where
  id : String
  name : String
  totalIssues : Nat
  nodesWithIssues : Nat
  nodesWithCriticalIssues : Nat
  totalUnits : Nat
  issueTypes : KindCounts
  qualityScore : ν
  complexityScore : ν
  createdAt : Instant
  deriving Repr, DecidableEq

variable {ν : Type} [Scalar ν]

/-- The best quality of a group with a critical issue. -/
def criticalCap : ν := Scalar.ofNat 50

/-- The record of a group with the given units; a group without units has none. -/
def aggregateGroup (id name : String) (units : List (UnitRecord ν)) (now : Instant) :
    Option (GroupRecord ν) :=
  if units.isEmpty then none
  else
    let critical := units.countP UnitRecord.hasCritical
    let count : ν := Scalar.ofNat units.length
    let mean := Scalar.sum (units.map UnitRecord.qualityScore) / count
    let quality := if critical > 0 then Scalar.atMost criticalCap mean else mean
    some
      { id
        name
        totalIssues := totalOf UnitRecord.issueCount units
        nodesWithIssues := units.countP fun unit => !unit.issues.isEmpty
        nodesWithCriticalIssues := critical
        totalUnits := units.length
        issueTypes := .ofIssues (units.flatMap UnitRecord.issues)
        qualityScore := Scalar.atLeast (Scalar.ofNat 0) (Scalar.round2 quality)
        complexityScore :=
          Scalar.round2 (Scalar.sum (units.map UnitRecord.complexityScore) / count)
        createdAt := now }

end FlowAudit
