import FlowAudit.Render.Word
import FlowAudit.Report.Activity

/-!
# FlowAudit.Render.Activity

The pages of what the program has just done. The page of a tick and that of a removal of old records
have no line break at the end.
-/

namespace FlowAudit.Render

/-- What is wrong with the settings. -/
def problemLine (problem : String) : Page :=
  line ["  ", yellow "[!!]", " ", problem]

instance : ToPage StoreStatus where
  page s :=
    header "flowsentry Status"
      ++ line ["  Database: ", match s.database with
        | some path => cyan path
        | none => dim "in-memory"]
      ++ line
        ["  Records:  ", cyan (Nat.repr s.counts.units), " units, ", cyan (Nat.repr s.counts.groups),
          " flows, ", cyan (Nat.repr s.counts.samples), " samples, ",
          cyan (Nat.repr s.counts.alerts), " alerts"]
      ++ (if s.problems.isEmpty then line ["  ", green "[OK]", " Configuration valid"] else [])
      ++ s.problems.flatMap problemLine

instance : ToPage PruneCounts where
  page counts :=
    [green "✓", " Pruned ", Nat.repr counts.samples, " samples and ", Nat.repr counts.alerts,
      " alerts"]

/-- The mark of a status. -/
def badge : BadgeColor → Piece
  | .red => red "●"
  | .yellow => yellow "●"
  | .blue => blue "●"
  | .none => dim "○"

/-- One unit of a scan, if it has issues. -/
def scannedUnitLine (unit : ScannedUnit Float) : Page :=
  if unit.issues = 0 then []
  else
    line
      ["  ", badge unit.status.color, " ", padRight 28 unit.name, " ",
        placesIn 6 1 unit.qualityScore, "  ", Nat.repr unit.issues, " issues  ",
        dim unit.status.text]

instance : ToPage (ScanView Float) where
  page s :=
    header "Scan Complete"
      ++ line
        ["Level ", Nat.repr s.level.number, "  Flows: ", Nat.repr s.groups.length,
          "  Function nodes: ", Nat.repr s.units.length, "  Issues: ",
          bold (Nat.repr s.totalIssues), "  ", dim (Nat.repr s.durationMs ++ "ms")]
      ++ s.units.flatMap scannedUnitLine
      ++ (if s.orphanedUnits = 0 then []
        else
          line ["  ", dim "[--]", " ", Nat.repr s.orphanedUnits,
            " function nodes outside any flow were skipped"])
      ++ (s.failedUnits.flatMap fun unit =>
        line ["  ", red "[!!]", " ", unit.id, ": ", unit.reason])
      ++ (if s.persistFailures = 0 then []
        else
          line ["  ", yellow "[!!]", " ", Nat.repr s.persistFailures,
            " records could not be saved"])

/-- The number of a tick. -/
def tickNumber (n : Nat) : String :=
  "#" ++ padRight 4 (Nat.repr n)

/-- The sample of a tick. -/
def tickSample (tick : Nat) : Option (Sample Float) → Page
  | some s =>
    [dim s.timestamp.timeText, " ", tickNumber tick, " cpu ", placesIn 6 2 s.cpuPercent,
      "%  memory ", placesIn 6 2 s.memoryPercent, "%  event loop ",
      placesIn 6 2 s.eventLoopLagMs, "ms"]
  | none => [tickNumber tick, " ", dim "no reading"]

/-- An alert that a tick stored. -/
def tickAlert (alert : AlertView Float) : Page :=
  let unit := alert.metric.unit
  ["\n  ", alertSeverityPiece alert.severity, " ", alert.metric.name, " sustained at ",
    places 2 alert.actual, unit, " (threshold ", plainNumber alert.threshold, unit, ")"]

/-- What a tick removed, if anything. What it removed was in a store, so the sum of the counts is taken to
fit into a word of sixty-four bits. -/
def tickPruned : Option PruneCounts → Page
  | some counts =>
    if counts.samples + counts.alerts = 0 then []
    else
      ["\n  ", dim ("pruned " ++ Nat.repr counts.samples ++ " samples, " ++ Nat.repr counts.alerts
        ++ " alerts")]
  | none => []

instance : ToPage (TickView Float) where
  page t := tickSample t.tick t.sample ++ t.alerts.flatMap tickAlert ++ tickPruned t.pruned

end FlowAudit.Render
