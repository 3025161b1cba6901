import FlowAudit.Render.Word
import FlowAudit.Report.Performance

/-!
# FlowAudit.Render.Health

The pages of the reports on a watched process.
-/

namespace FlowAudit.Render

def trendPiece : Trend → Piece
  | .increasing => red "increasing ↑"
  | .decreasing => green "decreasing ↓"
  | .stable => dim "stable"
  | .insufficientData => dim "insufficient data"

/-- What is being watched for. -/
def monitoringLine (settings : MonitoringSettings Float) : Page :=
  line
    ["Monitoring: ", if settings.enabled then green "enabled" else dim "disabled", "  Interval: ",
      toString settings.intervalSeconds, "s  Thresholds: cpu ", plainNumber settings.cpuThreshold,
      "%  memory ", plainNumber settings.memoryThreshold, "%  event loop ",
      plainNumber settings.eventLoopThreshold, "ms"]

/-- The last sample. -/
def currentLine : Option (Sample Float) → Page
  | some sample => line
      ["Current:    cpu ", placesIn 6 2 sample.cpuPercent, "%  memory ",
        placesIn 6 2 sample.memoryPercent, "% (", places 1 (megabytes sample.memoryBytes),
        " MB)  event loop ", placesIn 6 2 sample.eventLoopLagMs, "ms"]
  | none => line [dim "No samples recorded yet."]

/-- The time that the samples on record cover. -/
def coveredPieces (statistics : SampleStatistics) : Page :=
  match statistics.oldest, statistics.newest with
  | some oldest, some newest => ["  ", dim (oldest.minuteText ++ " .. " ++ newest.minuteText)]
  | _, _ => []

instance : ToPage (PerformanceSummary Float) where
  page s :=
    header "Performance Summary"
      ++ monitoringLine s.settings
      ++ currentLine s.current
      ++ line
        ["10-min avg: cpu ", placesIn 6 2 s.averages.cpu, "%  memory ",
          placesIn 6 2 s.averages.memory, "%  event loop ", placesIn 6 2 s.averages.eventLoop, "ms"]
      ++ line
        ["Trends:     cpu ", trendPiece s.trends.cpu, "  memory ", trendPiece s.trends.memory,
          "  event loop ", trendPiece s.trends.eventLoop]
      ++ line ("Samples:    " :: Nat.repr s.statistics.total :: coveredPieces s.statistics)
      ++ (if s.recentAlerts.isEmpty then []
        else line ["\n", bold "Recent alerts"] ++ s.recentAlerts.flatMap alertLine)

/-- One sample of the history. -/
def sampleLine (sample : Sample Float) : Page :=
  line
    ["  ", dim sample.timestamp.secondText, "  cpu ", placesIn 6 2 sample.cpuPercent, "%  memory ",
      placesIn 6 2 sample.memoryPercent, "%  rss ", placesIn 7 1 (megabytes sample.memoryBytes),
      " MB  event loop ", placesIn 6 2 sample.eventLoopLagMs, "ms"]

instance : ToPage (PerformanceHistory Float) where
  page h :=
    header ("Performance History (" ++ Nat.repr h.samples.length ++ " samples)")
      ++ h.samples.flatMap sampleLine

instance : ToPage (AlertListing Float) where
  page listing :=
    header ("Alerts (" ++ Nat.repr listing.alerts.length ++ ")")
      ++ (if listing.alerts.isEmpty then line [dim "No alerts recorded."] else [])
      ++ listing.alerts.flatMap alertLine

end FlowAudit.Render
