import FlowAudit.Number.Numeral
import FlowAudit.Settings.Error

/-!
# FlowAudit.Settings.Environment

Settings in the variables of the environment. Blanks around a value do not count, save in a path. The
first variable, in the order of the keys, whose value cannot be used is an error.
-/

namespace FlowAudit.Settings

open FlowAudit.Text

/-- A value written as text. -/
abbrev TextReader (α : Type) := List Char → Option α

def readBool : TextReader Bool := fun text =>
  match String.ofList text with
  | "true" => some true
  | "false" => some false
  | _ => none

def readInt : TextReader Int := Number.int64?

def readLevel : TextReader Level := fun text => (readInt text).map Level.ofInt

def readFloat : TextReader Float := Number.float?

/-- The keys of the variables, without what they all begin with. -/
def variableKeys : List String :=
  ["CODE_ANALYSIS", "SCAN_INTERVAL", "DETECTION_LEVEL", "PERFORMANCE_MONITORING",
    "PERFORMANCE_INTERVAL", "CPU_THRESHOLD", "MEMORY_THRESHOLD", "EVENT_LOOP_THRESHOLD",
    "SUSTAINED_ALERT_DURATION", "ALERT_COOLDOWN", "DB_RETENTION_DAYS", "DB_PATH"]

/-- The names of the variables that are looked at. -/
def variableNames : List String :=
  variableKeys.map (variablePrefix ++ ·)

/-- What the environment sets for a key. -/
def setIn {α : Type} (environment : String → Option String) (read : TextReader α)
    (name : String) : Except SettingsError (Option α) :=
  let key := variablePrefix ++ name
  match environment key with
  | none => .ok none
  | some value =>
    match read (trim value.toList) with
    | some a => .ok (some a)
    | none => .error (.invalidVariable key value)

/-- What the environment sets. -/
def ofEnvironment (environment : String → Option String) :
    Except SettingsError (Overrides Float) := do
  return {
    codeAnalysis := ← setIn environment readBool "CODE_ANALYSIS"
    scanInterval := ← setIn environment readInt "SCAN_INTERVAL"
    detectionLevel := ← setIn environment readLevel "DETECTION_LEVEL"
    performanceMonitoring := ← setIn environment readBool "PERFORMANCE_MONITORING"
    performanceInterval := ← setIn environment readInt "PERFORMANCE_INTERVAL"
    cpuThreshold := ← setIn environment readFloat "CPU_THRESHOLD"
    memoryThreshold := ← setIn environment readFloat "MEMORY_THRESHOLD"
    eventLoopThreshold := ← setIn environment readFloat "EVENT_LOOP_THRESHOLD"
    sustainedAlertDuration := ← setIn environment readInt "SUSTAINED_ALERT_DURATION"
    alertCooldown := ← setIn environment readInt "ALERT_COOLDOWN"
    retentionDays := ← setIn environment readInt "DB_RETENTION_DAYS"
    databasePath := environment (variablePrefix ++ "DB_PATH") }

end FlowAudit.Settings
