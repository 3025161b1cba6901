import FlowAudit.Settings.Basic
import FlowAudit.Toml.Reader

/-!
# FlowAudit.Settings.File

Settings in files. A file is a TOML document that sets keys of the settings; keys that are none are
passed over, but one that is must have a value of its type.
-/

namespace FlowAudit.Settings

open FlowAudit.Toml (Value)

def toBool? : Value → Option Bool
  | .bool b => some b
  | _ => none

def toInt? : Value → Option Int
  | .int n => some n
  | _ => none

/-- A number; it may be written as an integer. -/
def toFloat? : Value → Option Float
  | .float x => some x
  | .int n => some (Float.ofInt n)
  | _ => none

def toText? : Value → Option String
  | .string s => some s
  | _ => none

def toLevel? (value : Value) : Option Level :=
  (toInt? value).map Level.ofInt

/-- What a value gives for a key that may be missing. -/
def optionally {α : Type} (read? : Value → Option α) : Option Value → Option (Option α)
  | none => some none
  | some value => (read? value).map some

/-- One bound of grades, if it is set. -/
def bound? (standard : Float) : Option Value → Option Float
  | none => some standard
  | some value => toFloat? value

/-- The bounds of grades, by name or by position. A date has no names and so sets none. -/
def toBands? (value : Value) : Option (GradeBands Float) :=
  let read (given : String → Nat → Option Value) : Option (GradeBands Float) := do
    let standard : GradeBands Float := .standard
    return { a := ← bound? standard.a (given "a" 0)
             b := ← bound? standard.b (given "b" 1)
             c := ← bound? standard.c (given "c" 2)
             d := ← bound? standard.d (given "d" 3) }
  match value with
  | .table entries => read fun name _ => (entries.find? (·.1 == name)).map (·.2)
  | .array items => read fun _ position => items[position]?
  | .dateTime => read fun _ _ => none
  | _ => none

/-- What a table sets, if all of it can be set. -/
def ofTable? (entries : List (String × Value)) : Option (Overrides Float) := do
  let given (name : String) : Option Value := (entries.find? (·.1 == name)).map (·.2)
  return {
    codeAnalysis := ← optionally toBool? (given "codeAnalysis")
    scanInterval := ← optionally toInt? (given "scanInterval")
    detectionLevel := ← optionally toLevel? (given "detectionLevel")
    performanceMonitoring := ← optionally toBool? (given "performanceMonitoring")
    performanceInterval := ← optionally toInt? (given "performanceInterval")
    cpuThreshold := ← optionally toFloat? (given "cpuThreshold")
    memoryThreshold := ← optionally toFloat? (given "memoryThreshold")
    eventLoopThreshold := ← optionally toFloat? (given "eventLoopThreshold")
    sustainedAlertDuration := ← optionally toInt? (given "sustainedAlertDuration")
    alertCooldown := ← optionally toInt? (given "alertCooldown")
    retentionDays := ← optionally toInt? (given "dbRetentionDays")
    gradeBands := ← optionally toBands? (given "gradeBands")
    databasePath := ← optionally toText? (given "databasePath") }

/-- What the text of a file sets. -/
def ofText? (text : String) : Option (Overrides Float) := do
  ofTable? (← Toml.parse? text)

end FlowAudit.Settings
