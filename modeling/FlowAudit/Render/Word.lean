import FlowAudit.Number.Decimal
import FlowAudit.Render.Page
import FlowAudit.Report.Alert
import FlowAudit.Report.Issue
import FlowAudit.Time.Layout

/-!
# FlowAudit.Render.Word

The words and numbers that pages have in common: grades, severities, issues and alerts.
-/

namespace FlowAudit.Render

open FlowAudit.Number

/-- A number to some places. -/
def places (count : Nat) (x : Float) : String :=
  String.ofList (fixed count x)

/-- A number with as many digits as it has. -/
def plainNumber (x : Float) : String :=
  String.ofList (plain x)

/-- A number to some places, with blanks before it up to a width. -/
def placesIn (width count : Nat) (x : Float) : String :=
  padLeft width (places count x)

/-- A score out of a hundred. -/
def outOfHundred (score : Float) : Piece :=
  bold (places 1 score ++ "/100")

/-- Bytes in units of 1024 times 1024. -/
def megabytes (bytes : Nat) : Float :=
  Float.ofNat bytes / 1048576

/-- How a grade looks. -/
def gradeStyle : Grade → Style
  | .a => { color := some .green, bold := true }
  | .b => { color := some .green, bold := true, dim := true }
  | .c => { color := some .yellow, bold := true }
  | .d => { color := some .red, bold := true, dim := true }
  | .f => { color := some .red, bold := true }

def gradePiece (grade : Grade) : Piece :=
  { text := grade.letter, style := gradeStyle grade }

def severityPiece : Severity → Piece
  | .critical => red "[C]"
  | .warning => yellow "[W]"
  | .info => blue "[I]"

def alertSeverityPiece : AlertSeverity → Piece
  | .critical => { text := "critical", style := { color := some .red, bold := true } }
  | .warning => yellow "warning"
  | .info => blue "info"

/-- An issue on a line of its own. -/
def issueLine (indent : String) (issue : IssueView) : Page :=
  let at_ := match issue.line with
    | some n => "L" ++ Nat.repr n
    | none => "-"
  line [indent, severityPiece issue.severity, " ", dim (padLeft 5 at_), "  ", issue.message]

/-- An alert on a line of its own. -/
def alertLine (alert : AlertView Float) : Page :=
  let unit := alert.metric.unit
  line
    ["  ", dim alert.createdAt.secondText, "  ", padRight 9 alert.metric.name, " ",
      placesIn 8 2 alert.actual, unit, " over ", plainNumber alert.threshold, unit, " for ",
      places 1 alert.durationMinutes, " min  ", alertSeverityPiece alert.severity]

end FlowAudit.Render
