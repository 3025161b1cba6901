import FlowAudit.Render.Word
import FlowAudit.Report.Group
import FlowAudit.Report.History
import FlowAudit.Report.Summary
import FlowAudit.Report.Unit

/-!
# FlowAudit.Render.Quality

The pages of the reports on quality.
-/

namespace FlowAudit.Render

/-- One group of the summary. -/
def groupRowLine (row : GroupRow Float) : Page :=
  line
    ["  ", gradePiece row.grade, " ", padRight 28 row.name, " ", placesIn 6 1 row.qualityScore, "  ",
      padLeft 3 (Nat.repr row.totalIssues), " issues  ", padLeft 3 (Nat.repr row.totalUnits),
      " nodes  ", dim row.id]

instance : ToPage (QualitySummary Float) where
  page s :=
    let o := s.overview
    header "Code Quality Summary"
      ++ line
        ["Score: ", outOfHundred o.averageScore, "  Grade: ", gradePiece o.grade, "  Flows: ",
          Nat.repr o.totalGroups, "  Function nodes: ", Nat.repr o.totalUnits]
      ++ line
        ["Issues: ", Nat.repr o.totalIssues, "  Nodes with issues: ", Nat.repr o.nodesWithIssues,
          "  Critical nodes: ", red (Nat.repr o.criticalNodes), "  Debt ratio: ",
          places 3 o.debtRatio]
      ++ line []
      ++ if s.groups.isEmpty then
          line [dim "No scans recorded yet. Run `flowsentry scan <flows.json>`."]
        else s.groups.flatMap groupRowLine

/-- One hour of the history. -/
def historyLine (point : HistoryPoint Float) : Page :=
  line
    ["  ", dim point.hour.hourText, "  quality ", placesIn 6 1 point.qualityScore, "  issues ",
      padLeft 4 (Nat.repr point.totalIssues), "  nodes ", padLeft 4 (Nat.repr point.totalUnits),
      "  flows ", padLeft 3 (Nat.repr point.activeGroups)]

instance : ToPage (QualityHistory Float) where
  page h :=
    header ("Quality History (last " ++ toString h.hours ++ "h)")
      ++ if h.points.isEmpty then line [dim "No data in this period."]
        else h.points.flatMap historyLine

/-- A kind of issue with its count. -/
def kindCountLine (entry : Kind × Nat) : Page :=
  line ["  ", padRight 22 entry.1.tag, " ", Nat.repr entry.2]

/-- One unit of a group with its issues. -/
def unitDetailLines (unit : UnitDetail Float) : Page :=
  line
    ["\n  ", bold unit.name, " ", dim unit.id, "  quality ", places 1 unit.qualityScore,
      "  complexity ", places 1 unit.complexityScore, "  ", Nat.repr unit.linesOfCode, " lines"]
    ++ unit.issues.flatMap (issueLine "    ")

instance : ToPage (GroupDetail Float) where
  page g :=
    header ("Flow " ++ g.name)
      ++ line
        ["Score: ", outOfHundred g.qualityScore, "  Grade: ", gradePiece g.grade, "  Complexity: ",
          places 1 g.complexityScore, "  Issues: ", Nat.repr g.totalIssues, "  Nodes: ",
          Nat.repr g.totalUnits]
      ++ line ["Last updated: ", dim (g.lastUpdated.secondText ++ " UTC")]
      ++ (if g.issueTypes.isEmpty then [] else line [] ++ g.issueTypes.flatMap kindCountLine)
      ++ g.units.flatMap unitDetailLines

/-- The status of a unit, when there is anything to say. -/
def statusLine (status : Status) : Page :=
  if status.text.isEmpty then []
  else
    line ["Status: ", match status.color with
      | .red => red status.text
      | .yellow => yellow status.text
      | .blue => blue status.text
      | .none => status.text]

instance : ToPage (UnitAnalysis Float) where
  page u :=
    header ("Function Node " ++ u.name)
      ++ line
        ["Score: ", outOfHundred u.qualityScore, "  Grade: ", gradePiece u.grade, "  Complexity: ",
          places 1 u.complexityScore, "  Lines: ", Nat.repr u.linesOfCode]
      ++ line
        ["Issues: ", Nat.repr u.bySeverity.total, " (", red (Nat.repr u.bySeverity.critical),
          " critical, ", yellow (Nat.repr u.bySeverity.warning), " warning, ",
          blue (Nat.repr u.bySeverity.info), " info)"]
      ++ statusLine u.status
      ++ (if u.issues.isEmpty then [] else line [])
      ++ u.issues.flatMap (issueLine "  ")

end FlowAudit.Render
