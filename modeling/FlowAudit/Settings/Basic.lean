import FlowAudit.Health.Sample
import FlowAudit.Issue.Kind
import FlowAudit.Score.Grade
import FlowAudit.Text.Path

/-!
# FlowAudit.Settings.Basic

The settings of the program. They are put together from several sources, each of which may set any of
them: `Overrides` is what one source sets, and a later source wins key by key.
-/

namespace FlowAudit

/-- The settings in force. -/
structure Settings (ν : Type) where
  codeAnalysis : Bool
  /-- Seconds between scans; none are done by themselves unless it is positive. -/
  scanInterval : Int
  detectionLevel : Level
  performanceMonitoring : Bool
  /-- Seconds between samples; none are taken unless it is positive. -/
  performanceInterval : Int
  cpuThreshold : ν
  memoryThreshold : ν
  eventLoopThreshold : ν
  /-- The seconds a metric has to stay over its threshold. -/
  sustainedAlertDuration : Int
  /-- The seconds between two alerts for one metric. -/
  alertCooldown : Int
  /-- The days samples and alerts are kept. -/
  retentionDays : Int
  gradeBands : GradeBands ν
  /-- The file of the store. -/
  databasePath : Option String
  deriving Repr, DecidableEq

/-- What one source of settings sets. -/
structure Overrides (ν : Type) where
  codeAnalysis : Option Bool := none
  scanInterval : Option Int := none
  detectionLevel : Option Level := none
  performanceMonitoring : Option Bool := none
  performanceInterval : Option Int := none
  cpuThreshold : Option ν := none
  memoryThreshold : Option ν := none
  eventLoopThreshold : Option ν := none
  sustainedAlertDuration : Option Int := none
  alertCooldown : Option Int := none
  retentionDays : Option Int := none
  gradeBands : Option (GradeBands ν) := none
  databasePath : Option String := none
  deriving Repr, DecidableEq

/-- The file of the store where none is set. -/
def defaultDatabase : String := "flowsentry.redb"

/-- The file of settings that belongs to a project. -/
def projectFile : String := "flowsentry.toml"

/-- What the names of the environment's variables for settings begin with. -/
def variablePrefix : String := "FLOWSENTRY_"

/-- What is wrong with settings that can be worked with all the same. -/
inductive SettingsProblem (ν : Type) where
  | threshold (metric : Metric) (value : ν)
  | gradeBands
  | retention (days : Int)
  deriving Repr, DecidableEq

namespace Settings

variable {ν : Type}

/-- The settings with those of a source put over them. -/
def override (settings : Settings ν) (source : Overrides ν) : Settings ν where
  codeAnalysis := source.codeAnalysis.getD settings.codeAnalysis
  scanInterval := source.scanInterval.getD settings.scanInterval
  detectionLevel := source.detectionLevel.getD settings.detectionLevel
  performanceMonitoring := source.performanceMonitoring.getD settings.performanceMonitoring
  performanceInterval := source.performanceInterval.getD settings.performanceInterval
  cpuThreshold := source.cpuThreshold.getD settings.cpuThreshold
  memoryThreshold := source.memoryThreshold.getD settings.memoryThreshold
  eventLoopThreshold := source.eventLoopThreshold.getD settings.eventLoopThreshold
  sustainedAlertDuration := source.sustainedAlertDuration.getD settings.sustainedAlertDuration
  alertCooldown := source.alertCooldown.getD settings.alertCooldown
  retentionDays := source.retentionDays.getD settings.retentionDays
  gradeBands := source.gradeBands.getD settings.gradeBands
  databasePath := source.databasePath.or settings.databasePath

/-- The threshold of a metric. -/
def threshold (settings : Settings ν) : Metric → ν
  | .cpu => settings.cpuThreshold
  | .memory => settings.memoryThreshold
  | .eventLoop => settings.eventLoopThreshold

/-- The file of the store; a relative path is taken within `base`. -/
def databaseFile (settings : Settings ν) (base : String) : String :=
  Path.join base (settings.databasePath.getD defaultDatabase)

variable [Scalar ν]

/-- The settings where no source sets any. -/
def standard : Settings ν where
  codeAnalysis := true
  scanInterval := 30
  detectionLevel := .basic
  performanceMonitoring := false
  performanceInterval := 10
  cpuThreshold := Scalar.ofNat 75
  memoryThreshold := Scalar.ofNat 80
  eventLoopThreshold := Scalar.ofNat 20
  sustainedAlertDuration := 300
  alertCooldown := 1800
  retentionDays := 7
  gradeBands := .standard
  databasePath := none

/-- The metrics whose threshold is not positive. -/
def thresholdProblems (settings : Settings ν) : List (SettingsProblem ν) :=
  (Metric.all.filter fun metric => !Scalar.lt (Scalar.ofNat 0) (settings.threshold metric)).map
    fun metric => .threshold metric (settings.threshold metric)

/-- A number of days that cannot be kept. -/
def retentionProblems (settings : Settings ν) : List (SettingsProblem ν) :=
  if settings.retentionDays ≤ 0 then [.retention settings.retentionDays] else []

/-- All that is wrong with settings. -/
def problems (settings : Settings ν) : List (SettingsProblem ν) :=
  settings.thresholdProblems
    ++ (if settings.gradeBands.isDescending then [] else [.gradeBands])
    ++ settings.retentionProblems

end Settings

end FlowAudit
