import FlowAudit.Issue.Basic
import FlowAudit.Rule.Word
import FlowAudit.Source.Line

/-!
# FlowAudit.Rule.Marker

Marks a developer leaves while working: `debugger` statements in code, and `TODO`, `FIXME`, `XXX`
and `HACK` markers in comments.
-/

namespace FlowAudit.Rule

open FlowAudit.Text FlowAudit.Source

/-- One issue for every line of code with a free-standing `debugger`. -/
def debuggerStatement (lines : List Line) : List Issue :=
  (lines.filter fun line => !(freeWords ["debugger".toList] line.code).isEmpty).map fun line =>
    .located .debuggerStatement line.number "remove the debugger statement"

/-- Markers recognised in any mixture of capital and small letters. -/
def casualMarkers : List (List Char) := ["todo", "fixme"].map String.toList

/-- Markers recognised in capitals only. -/
def shoutedMarkers : List (List Char) := ["XXX", "HACK"].map String.toList

/-- Whether a text begins with a marker that ends there. -/
def markerAt (text : List Char) : Bool :=
  (casualMarkers.any fun marker => (afterPrefixAnyCase? marker text).any endsWord) ||
    shoutedMarkers.any fun marker => (afterPrefix? marker text).any endsWord

/-- Whether a comment holds a marker that stands alone. -/
def hasMarker (comment : List Char) : Bool :=
  !(findAll (fun before text => if startsWord before && markerAt text then some () else none) none
    comment).isEmpty

/-- The most characters of a comment that a message quotes. -/
def excerptLength : Nat := 60

/-- What a message quotes of a comment: its beginning, without blanks around it and without leading
asterisks. -/
def excerpt (comment : List Char) : List Char :=
  (trim ((trim comment).dropWhile (· == '*'))).take excerptLength

/-- One issue for every line whose comment text holds a marker. -/
def todoComment (lines : List Line) : List Issue :=
  (lines.filter fun line => hasMarker line.comment).map fun line =>
    .located .todoComment line.number (String.ofList (excerpt line.comment))

end FlowAudit.Rule
