import FlowAudit.Health.Codec
import FlowAudit.Report.Alert
import FlowAudit.Settings.Basic

/-!
# FlowAudit.Report.Performance

How a watched process does: its last sample, means over ten minutes, trends over an hour, the last
alerts, and what is being watched for.
-/

namespace FlowAudit

open Json

/-- The samples on record. -/
structure SampleStatistics where
  total : Nat
  oldest : Option Instant
  newest : Option Instant
  deriving Repr, DecidableEq

/-- The settings that monitoring goes by. -/
structure MonitoringSettings (ν : Type) where
  enabled : Bool
  intervalSeconds : Int
  cpuThreshold : ν
  memoryThreshold : ν
  eventLoopThreshold : ν
  sustainedAlertDuration : Int
  alertCooldown : Int
  retentionDays : Int
  deriving Repr, DecidableEq

/-- How a watched process does. -/
structure PerformanceSummary (ν : Type) where
  current : Option (Sample ν)
  averages : PerMetric ν
  trends : PerMetric Trend
  recentAlerts : List (AlertView ν)
  statistics : SampleStatistics
  settings : MonitoringSettings ν
  deriving Repr, DecidableEq

/-- The last samples, oldest first. -/
structure PerformanceHistory (ν : Type) where
  samples : List (Sample ν)
  deriving Repr, DecidableEq

variable {ρ ν : Type}

def MonitoringSettings.ofSettings (settings : Settings ν) : MonitoringSettings ν where
  enabled := settings.performanceMonitoring
  intervalSeconds := settings.performanceInterval
  cpuThreshold := settings.cpuThreshold
  memoryThreshold := settings.memoryThreshold
  eventLoopThreshold := settings.eventLoopThreshold
  sustainedAlertDuration := settings.sustainedAlertDuration
  alertCooldown := settings.alertCooldown
  retentionDays := settings.retentionDays

/-- The time that means are taken over. -/
def averageWindow : Span := .ofMinutes 10

/-- The time that trends are taken over. -/
def trendWindow : Span := .ofMinutes 60

/-- The number of alerts in the summary. -/
def summaryAlerts : Nat := 5

/-- How the process does whose samples a store holds. -/
def Store.performanceSummary [Scalar ν] [Stored ρ (Sample ν)] [Stored ρ (Alert ν)]
    (settings : Settings ν) (now : Instant) : StoreM ρ (PerformanceSummary ν) := do
  let recent : List (Sample ν) ← Store.windowSamples trendWindow now
  let all : List (Sample ν) ← Store.samplesBetween .earliest .latest
  let current ← Store.latestSample
  let alerts ← Store.recentAlerts summaryAlerts
  return {
    current
    averages := (FlowAudit.averages recent averageWindow now).map Scalar.round2
    trends := .tabulate fun metric => FlowAudit.trend recent metric trendWindow now
    recentAlerts := alerts.map Alert.view
    statistics :=
      { total := all.length
        oldest := all.head?.map Sample.timestamp
        newest := all.getLast?.map Sample.timestamp }
    settings := .ofSettings settings }

/-- The last samples of a store. -/
def Store.performanceHistory [Stored ρ (Sample ν)] (limit : Nat) :
    StoreM ρ (PerformanceHistory ν) := do
  return { samples := (← Store.recentSamples limit).reverse }

instance : ToValue SampleStatistics where
  toValue s := .object
    [("totalSamples", .nat s.total), ("oldestSample", toValue s.oldest),
      ("newestSample", toValue s.newest)]

instance [ToValue ν] : ToValue (MonitoringSettings ν) where
  toValue s := .object
    [("enabled", .bool s.enabled), ("intervalSeconds", .int s.intervalSeconds),
      ("cpuThreshold", toValue s.cpuThreshold), ("memoryThreshold", toValue s.memoryThreshold),
      ("eventLoopThreshold", toValue s.eventLoopThreshold),
      ("sustainedAlertDuration", .int s.sustainedAlertDuration),
      ("alertCooldown", .int s.alertCooldown), ("retentionDays", .int s.retentionDays)]

instance [ToValue ν] : ToValue (PerformanceSummary ν) where
  toValue s := .object
    [("current", toValue s.current), ("averages", toValue s.averages),
      ("trends", toValue s.trends), ("recentAlerts", toValue s.recentAlerts),
      ("statistics", toValue s.statistics), ("settings", toValue s.settings)]

instance [ToValue ν] : ToValue (PerformanceHistory ν) where
  toValue h := .object [("count", .nat h.samples.length), ("samples", toValue h.samples)]

end FlowAudit
