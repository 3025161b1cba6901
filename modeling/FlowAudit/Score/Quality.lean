import FlowAudit.Issue.Basic
import FlowAudit.Number.Scalar

/-!
# FlowAudit.Score.Quality

Quality of a unit, from zero to a hundred. Every critical issue costs thirty points. Warnings cost
ten points each up to fifty together, and minor issues two points each up to twenty together; both
cost less in a long unit, down to half at five hundred lines.
-/

namespace FlowAudit

variable {ν : Type} [Scalar ν]

/-- The share of the cost of issues that are not critical which a unit of the given length bears. -/
def sizeFactor (lines : Nat) : ν :=
  Scalar.clamp (Scalar.ratio 1 2) (Scalar.ofNat 1) (Scalar.ofNat 1 - Scalar.ofNat lines / Scalar.ofNat 1000)

/-- The points that issues cost a unit. -/
def penalty (critical warning info lines : Nat) : ν :=
  Scalar.ofNat critical * Scalar.ofNat 30
    + Scalar.atMost (Scalar.ofNat 50) (Scalar.ofNat warning * Scalar.ofNat 10) * sizeFactor lines
    + Scalar.atMost (Scalar.ofNat 20) (Scalar.ofNat info * Scalar.ofNat 2) * sizeFactor lines

/-- The quality of a unit with the given issues and number of lines. -/
def quality (issues : List Issue) (lines : Nat) : ν :=
  Scalar.clamp (Scalar.ofNat 0) (Scalar.ofNat 100)
    (Scalar.ofNat 100 - penalty (countSeverity .critical issues) (countSeverity .warning issues)
      (countSeverity .info issues) lines)

end FlowAudit
