import FlowAudit.Record.Codec

/-!
# FlowAudit.Report.Issue

An issue as reports show it, with its severity spelled out.
-/

namespace FlowAudit

open Json

/-- An issue with its severity. -/
structure IssueView where
  kind : Kind
  message : String
  line : Option Nat
  severity : Severity
  deriving Repr, DecidableEq

/-- An issue as reports show it. -/
def Issue.view (issue : Issue) : IssueView where
  kind := issue.kind
  message := issue.message
  line := issue.line
  severity := issue.severity

instance : ToValue IssueView where
  toValue v := .object
    [("type", toValue v.kind), ("message", .string v.message), ("line", toValue v.line),
      ("severity", toValue v.severity)]

end FlowAudit
