import FlowAudit.Issue.Kind

/-!
# FlowAudit.Issue.Basic

One issue found in a unit of source, the counts of issues by severity, and the status a unit is
given for its worst issue.
-/

namespace FlowAudit

/-- An issue found in a unit. Stored issues may lack a line; found ones have one. -/
structure Issue where
  kind : Kind
  message : String
  /-- The line, counted from 1. -/
  line : Option Nat := none
  deriving Repr, DecidableEq

namespace Issue

/-- An issue at a line. Its message is the headline of its kind, followed by the detail if any. -/
def located (kind : Kind) (line : Nat) (detail : String) : Issue where
  kind
  message := if detail.isEmpty then kind.headline else kind.headline ++ ": " ++ detail
  line := some line

def severity (issue : Issue) : Severity :=
  issue.kind.severity

end Issue

/-- Whether one of the issues is critical. -/
def hasCritical (issues : List Issue) : Bool :=
  issues.any (·.severity == .critical)

/-- How many issues have the given severity. -/
def countSeverity (severity : Severity) (issues : List Issue) : Nat :=
  issues.countP (·.severity == severity)

/-- Counts of issues by severity. -/
structure SeverityCounts where
  critical : Nat
  warning : Nat
  info : Nat
  total : Nat
  deriving Repr, DecidableEq

/-- The counts of a list of issues. -/
def SeverityCounts.ofIssues (issues : List Issue) : SeverityCounts where
  critical := countSeverity .critical issues
  warning := countSeverity .warning issues
  info := countSeverity .info issues
  total := issues.length

/-- The colour of a unit's status badge. -/
inductive BadgeColor where
  | red
  | yellow
  | blue
  | none
  deriving Repr, DecidableEq

namespace BadgeColor

def all : List BadgeColor := [red, yellow, blue, none]

def name : BadgeColor → String
  | red => "red"
  | yellow => "yellow"
  | blue => "blue"
  | none => "none"

end BadgeColor

/-- What a unit is told about itself. -/
structure Status where
  color : BadgeColor
  text : String
  deriving Repr, DecidableEq

/-- The worst severity among issues, if there is any issue. -/
def worstSeverity? : List Issue → Option Severity
  | [] => none
  | issue :: rest =>
    match worstSeverity? rest with
    | some worst => some (issue.severity.worse worst)
    | none => some issue.severity

/-- The status that the worst issue of a unit gives it. -/
def Status.ofIssues (issues : List Issue) : Status :=
  match worstSeverity? issues with
  | some .critical => ⟨.red, "Severe debugging traits"⟩
  | some .warning => ⟨.yellow, "Important debugging traits"⟩
  | some .info => ⟨.blue, "Minor debug traits noticed"⟩
  | none => ⟨.none, ""⟩

end FlowAudit
