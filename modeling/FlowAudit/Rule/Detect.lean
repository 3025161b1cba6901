import FlowAudit.Number.Word
import FlowAudit.Rule.BareReturn
import FlowAudit.Rule.Call
import FlowAudit.Rule.EmptyLines
import FlowAudit.Rule.Marker
import FlowAudit.Rule.Placeholder
import FlowAudit.Source.Mask

/-!
# FlowAudit.Rule.Detect

All rules together. `detect` masks a source once, lets every rule of the level look at it, and
orders what they find by line and, within a line, by catalog order.
-/

namespace FlowAudit

open FlowAudit.Text FlowAudit.Source

/-- The rule that finds the issues of a kind. -/
def Kind.rule : Kind → List Line → List Issue
  | .topLevelReturn => Rule.topLevelReturn
  | .consoleLog => Rule.consoleLog
  | .nodeWarn => Rule.nodeWarn
  | .debuggerStatement => Rule.debuggerStatement
  | .todoComment => Rule.todoComment
  | .unusedVariable => Rule.unusedVariable
  | .hardcodedTest => Rule.hardcodedTest
  | .multipleEmptyLines => Rule.multipleEmptyLines

/-- What all rules of a level find, in catalog order. -/
def issuesByKind (level : Level) (lines : List Line) : List Issue :=
  (Kind.all.filter (·.enabledAt level)).flatMap fun kind => kind.rule lines

/-- The greatest line number there is; issues without a line are ordered as if they were there. -/
def greatestLine : Nat := Number.wordSize 32 - 1

/-- The place of an issue in the order by line. -/
def Issue.position (issue : Issue) : Nat :=
  issue.line.getD greatestLine

/-- The issues of a source at a level, ordered by line. A source of blanks alone has none. -/
def detect (level : Level) (source : List Char) : List Issue :=
  if allBlank source then []
  else (issuesByKind level (maskSource source)).mergeSort fun a b => a.position ≤ b.position

end FlowAudit
