import FlowAudit.Settings.Load

/-!
# FlowAudit.Proofs.Settings.Precedence

**Which source a setting comes from.** Settings are read and put over each other field by field. Here they
are functions of a key (`Settings.get`, `Overrides.get`), and each source says of each key what it sets it
to (`SettingsSource.sets`, `SettingsKey.inEnvironment`) and of itself what is wrong with it
(`SettingsSource.fault?`, `SettingsKey.variableFault?`). Loading is then one rule for all keys: the value of
a key is that of the environment, else that of the project's file, else that of the user's file, else the
standard one; and the first fault, in the order of the sources, is the error (`load_key_by_key`).

A chain of readings fails with its first fault and otherwise gives what the parts give. That is composed
one reading at a time by `Settles.bind`, and by `Yields.bind` where there is nothing to tell but that it
failed.
-/

namespace FlowAudit

open FlowAudit.Text
open FlowAudit.Toml (Value)

/-! ### Keys -/

/-- The keys of settings, in the order in which the environment is looked at. -/
inductive SettingsKey where
  | codeAnalysis
  | scanInterval
  | detectionLevel
  | performanceMonitoring
  | performanceInterval
  | cpuThreshold
  | memoryThreshold
  | eventLoopThreshold
  | sustainedAlertDuration
  | alertCooldown
  | retentionDays
  | gradeBands
  | databasePath
  deriving Repr, DecidableEq

namespace SettingsKey

def all : List SettingsKey :=
  [codeAnalysis, scanInterval, detectionLevel, performanceMonitoring, performanceInterval,
    cpuThreshold, memoryThreshold, eventLoopThreshold, sustainedAlertDuration, alertCooldown,
    retentionDays, gradeBands, databasePath]

theorem mem_all (key : SettingsKey) : key ∈ all := by cases key <;> decide

/-- What a key is set to. -/
abbrev Held : SettingsKey → Type
  | codeAnalysis | performanceMonitoring => Bool
  | scanInterval | performanceInterval | sustainedAlertDuration | alertCooldown | retentionDays => Int
  | detectionLevel => Level
  | cpuThreshold | memoryThreshold | eventLoopThreshold => Float
  | gradeBands => GradeBands Float
  | databasePath => String

/-- The name of a key in a file. -/
def name : SettingsKey → String
  | codeAnalysis => "codeAnalysis"
  | scanInterval => "scanInterval"
  | detectionLevel => "detectionLevel"
  | performanceMonitoring => "performanceMonitoring"
  | performanceInterval => "performanceInterval"
  | cpuThreshold => "cpuThreshold"
  | memoryThreshold => "memoryThreshold"
  | eventLoopThreshold => "eventLoopThreshold"
  | sustainedAlertDuration => "sustainedAlertDuration"
  | alertCooldown => "alertCooldown"
  | retentionDays => "dbRetentionDays"
  | gradeBands => "gradeBands"
  | databasePath => "databasePath"

/-- The variable of the environment for a key; the bounds of grades have none. -/
def environmentName? : SettingsKey → Option String
  | codeAnalysis => some (variablePrefix ++ "CODE_ANALYSIS")
  | scanInterval => some (variablePrefix ++ "SCAN_INTERVAL")
  | detectionLevel => some (variablePrefix ++ "DETECTION_LEVEL")
  | performanceMonitoring => some (variablePrefix ++ "PERFORMANCE_MONITORING")
  | performanceInterval => some (variablePrefix ++ "PERFORMANCE_INTERVAL")
  | cpuThreshold => some (variablePrefix ++ "CPU_THRESHOLD")
  | memoryThreshold => some (variablePrefix ++ "MEMORY_THRESHOLD")
  | eventLoopThreshold => some (variablePrefix ++ "EVENT_LOOP_THRESHOLD")
  | sustainedAlertDuration => some (variablePrefix ++ "SUSTAINED_ALERT_DURATION")
  | alertCooldown => some (variablePrefix ++ "ALERT_COOLDOWN")
  | retentionDays => some (variablePrefix ++ "DB_RETENTION_DAYS")
  | gradeBands => none
  | databasePath => some (variablePrefix ++ "DB_PATH")

/-- What a value in a file sets a key to, if it is of the right type. -/
def ofValue? : (key : SettingsKey) → Value → Option key.Held
  | codeAnalysis | performanceMonitoring => Settings.toBool?
  | scanInterval | performanceInterval | sustainedAlertDuration | alertCooldown | retentionDays =>
    Settings.toInt?
  | detectionLevel => Settings.toLevel?
  | cpuThreshold | memoryThreshold | eventLoopThreshold => Settings.toFloat?
  | gradeBands => Settings.toBands?
  | databasePath => Settings.toText?

/-- What the text of a variable sets a key to, if it can be read. A path is taken as it is. -/
def ofVariable? : (key : SettingsKey) → String → Option key.Held
  | codeAnalysis | performanceMonitoring => fun text => Settings.readBool (trim text.toList)
  | scanInterval | performanceInterval | sustainedAlertDuration | alertCooldown | retentionDays =>
    fun text => Settings.readInt (trim text.toList)
  | detectionLevel => fun text => Settings.readLevel (trim text.toList)
  | cpuThreshold | memoryThreshold | eventLoopThreshold =>
    fun text => Settings.readFloat (trim text.toList)
  | gradeBands => fun _ => none
  | databasePath => some

end SettingsKey

/-- What settings hold for a key. Only the path of the store may be left open. -/
def Settings.get (settings : Settings Float) : (key : SettingsKey) → Option key.Held
  | .codeAnalysis => some settings.codeAnalysis
  | .scanInterval => some settings.scanInterval
  | .detectionLevel => some settings.detectionLevel
  | .performanceMonitoring => some settings.performanceMonitoring
  | .performanceInterval => some settings.performanceInterval
  | .cpuThreshold => some settings.cpuThreshold
  | .memoryThreshold => some settings.memoryThreshold
  | .eventLoopThreshold => some settings.eventLoopThreshold
  | .sustainedAlertDuration => some settings.sustainedAlertDuration
  | .alertCooldown => some settings.alertCooldown
  | .retentionDays => some settings.retentionDays
  | .gradeBands => some settings.gradeBands
  | .databasePath => settings.databasePath

namespace Overrides

/-- What a source sets a key to. -/
def get (source : Overrides Float) : (key : SettingsKey) → Option key.Held
  | .codeAnalysis => source.codeAnalysis
  | .scanInterval => source.scanInterval
  | .detectionLevel => source.detectionLevel
  | .performanceMonitoring => source.performanceMonitoring
  | .performanceInterval => source.performanceInterval
  | .cpuThreshold => source.cpuThreshold
  | .memoryThreshold => source.memoryThreshold
  | .eventLoopThreshold => source.eventLoopThreshold
  | .sustainedAlertDuration => source.sustainedAlertDuration
  | .alertCooldown => source.alertCooldown
  | .retentionDays => source.retentionDays
  | .gradeBands => source.gradeBands
  | .databasePath => source.databasePath

/-- A source that sets every key as told. -/
def ofKeys (sets : (key : SettingsKey) → Option key.Held) : Overrides Float where
  codeAnalysis := sets .codeAnalysis
  scanInterval := sets .scanInterval
  detectionLevel := sets .detectionLevel
  performanceMonitoring := sets .performanceMonitoring
  performanceInterval := sets .performanceInterval
  cpuThreshold := sets .cpuThreshold
  memoryThreshold := sets .memoryThreshold
  eventLoopThreshold := sets .eventLoopThreshold
  sustainedAlertDuration := sets .sustainedAlertDuration
  alertCooldown := sets .alertCooldown
  retentionDays := sets .retentionDays
  gradeBands := sets .gradeBands
  databasePath := sets .databasePath

@[simp]
theorem get_ofKeys (sets : (key : SettingsKey) → Option key.Held) (key : SettingsKey) :
    (ofKeys sets).get key = sets key := by
  cases key <;> rfl

end Overrides

/-- **A source is put over settings key by key.** -/
@[simp]
theorem Settings.get_override (settings : Settings Float) (source : Overrides Float)
    (key : SettingsKey) :
    (settings.override source).get key = (source.get key).or (settings.get key) := by
  have given {α : Type} (new : Option α) (old : α) : some (new.getD old) = new.or (some old) := by
    cases new <;> rfl
  cases key with
  | databasePath => rfl
  | _ => exact given _ _

/-! ### Readings and their faults -/

/-- A reading fails with a fault if there is one, and else it gives a value. -/
def Settles {ε α : Type} (reading : Except ε α) (fault : Option ε) (value : α) : Prop :=
  reading = fault.elim (.ok value) .error

namespace Settles

variable {ε α β : Type} {reading : Except ε α} {fault : Option ε} {value : α}

theorem pure (value : α) : Settles (ε := ε) (Pure.pure value) none value := rfl

/-- Readings after each other have the fault of the first one that has one. -/
theorem bind {next : α → Except ε β} {fault' : Option ε} {value' : β}
    (settles : Settles reading fault value) (settles' : Settles (next value) fault' value') :
    Settles (reading >>= next) (fault.or fault') value' := by
  obtain rfl := settles
  cases fault with
  | some error => rfl
  | none => exact settles'

end Settles

/-- A reading gives a value if something holds, and else nothing. -/
def Yields {α : Type} (reading : Option α) (holds : Bool) (value : α) : Prop :=
  reading = if holds then some value else none

namespace Yields

variable {α β : Type} {reading : Option α} {holds : Bool} {value : α}

theorem pure (value : α) : Yields (Pure.pure value) true value := rfl

theorem bind {next : α → Option β} {holds' : Bool} {value' : β}
    (yields : Yields reading holds value) (yields' : Yields (next value) holds' value') :
    Yields (reading >>= next) (holds && holds') value' := by
  obtain rfl := yields
  cases holds with
  | true => exact yields'
  | false => rfl

end Yields

/-! ### Files -/

namespace SettingsKey

/-- The value that a table has for a key. -/
def entry? (entries : List (String × Value)) (key : SettingsKey) : Option Value :=
  (entries.find? (·.1 == key.name)).map (·.2)

/-- What a table sets a key to. -/
def inTable (entries : List (String × Value)) (key : SettingsKey) : Option key.Held :=
  (key.entry? entries).bind key.ofValue?

/-- A value that a table has for a key is of the right type. -/
def fits (entries : List (String × Value)) (key : SettingsKey) : Bool :=
  (key.entry? entries).all fun value => (key.ofValue? value).isSome

/-- The reading of one key of a table. -/
theorem yields_optionally (entries : List (String × Value)) (key : SettingsKey) :
    Yields (Settings.optionally key.ofValue? (key.entry? entries)) (key.fits entries)
      (key.inTable entries) := by
  cases value : key.entry? entries with
  | none => simp [Yields, Settings.optionally, fits, inTable, value]
  | some entry =>
      cases held : key.ofValue? entry <;>
        simp [Yields, Settings.optionally, fits, inTable, value, held]

end SettingsKey

/-- A table is read key by key. -/
theorem yields_ofTable? (entries : List (String × Value)) :
    Yields (Settings.ofTable? entries) (SettingsKey.all.all (·.fits entries))
      (.ofKeys fun key => key.inTable entries) := by
  have reading (key : SettingsKey) := key.yields_optionally entries
  exact (reading .codeAnalysis).bind <| (reading .scanInterval).bind <|
    (reading .detectionLevel).bind <| (reading .performanceMonitoring).bind <|
    (reading .performanceInterval).bind <| (reading .cpuThreshold).bind <|
    (reading .memoryThreshold).bind <| (reading .eventLoopThreshold).bind <|
    (reading .sustainedAlertDuration).bind <| (reading .alertCooldown).bind <|
    (reading .retentionDays).bind <| (reading .gradeBands).bind <|
    (reading .databasePath).bind <| .pure _

/-- So is the text of a document. -/
theorem yields_ofText? (text : String) :
    Yields (Settings.ofText? text)
      ((Toml.parse? text).any fun entries => SettingsKey.all.all (·.fits entries))
      (.ofKeys fun key => (Toml.parse? text).bind key.inTable) := by
  unfold Settings.ofText?
  cases Toml.parse? text with
  | none => rfl
  | some entries => exact yields_ofTable? entries

namespace SettingsSource

/-- What is wrong with a file: it cannot be read, it is no document, or it has a value of the wrong type
for one of the keys. -/
def fault? (source : SettingsSource) : Option SettingsError :=
  match source.text with
  | .error fault => some (.read source.path fault)
  | .ok text =>
    if (Toml.parse? text).any fun entries => SettingsKey.all.all (·.fits entries) then none
    else some (.parse source.path)

/-- What a file sets a key to. -/
def sets (source : SettingsSource) (key : SettingsKey) : Option key.Held :=
  source.text.toOption.bind fun text => (Toml.parse? text).bind key.inTable

theorem settles_overrides (source : SettingsSource) :
    Settles source.overrides source.fault? (.ofKeys source.sets) := by
  obtain ⟨path, text⟩ := source
  cases text with
  | error fault => rfl
  | ok text =>
      have reading : Settings.ofText? text = _ := yields_ofText? text
      simp only [Settles, overrides, fault?, reading]
      cases (Toml.parse? text).any fun entries => SettingsKey.all.all (·.fits entries) <;> rfl

end SettingsSource

/-- A file that there may be. -/
theorem settles_overridesOf (source : Option SettingsSource) :
    Settles (overridesOf source) (source.bind (·.fault?)) (.ofKeys fun key => source.bind (·.sets key)) := by
  cases source with
  | none => rfl
  | some source => exact source.settles_overrides

/-! ### The environment -/

namespace SettingsKey

/-- What the environment sets a key to. -/
def inEnvironment (environment : String → Option String) (key : SettingsKey) : Option key.Held :=
  key.environmentName?.bind fun name => (environment name).bind key.ofVariable?

/-- What is wrong with the variable for a key: it is set, and its text cannot be read. -/
def variableFault? (environment : String → Option String) (key : SettingsKey) :
    Option SettingsError :=
  key.environmentName?.bind fun name => (environment name).bind fun text =>
    if (key.ofVariable? text).isSome then none else some (.invalidVariable name text)

/-- The reading of one variable. -/
theorem settles_setIn (environment : String → Option String) (key : SettingsKey)
    (read : Settings.TextReader key.Held) {name : String}
    (named : key.environmentName? = some (variablePrefix ++ name))
    (reads : ∀ text, key.ofVariable? text = read (trim text.toList)) :
    Settles (Settings.setIn environment read name) (key.variableFault? environment)
      (key.inEnvironment environment) := by
  cases given : environment (variablePrefix ++ name) with
  | none => simp [Settles, Settings.setIn, variableFault?, inEnvironment, named, given]
  | some text =>
      cases held : read (trim text.toList) <;>
        simp [Settles, Settings.setIn, variableFault?, inEnvironment, named, given, reads, held]

end SettingsKey

/-- The bounds of grades and the path of the store cannot be set wrongly. -/
theorem variableFault?_gradeBands (environment : String → Option String) :
    SettingsKey.gradeBands.variableFault? environment = none := rfl

theorem variableFault?_databasePath (environment : String → Option String) :
    SettingsKey.databasePath.variableFault? environment = none := by
  simp [SettingsKey.variableFault?, SettingsKey.environmentName?, SettingsKey.ofVariable?]

/-- The environment is read key by key; its fault is that of the first key that has one. -/
theorem settles_ofEnvironment (environment : String → Option String) :
    Settles (Settings.ofEnvironment environment)
      (SettingsKey.all.findSome? (·.variableFault? environment))
      (.ofKeys fun key => key.inEnvironment environment) := by
  have reading := SettingsKey.settles_setIn environment
  have cons (key : SettingsKey) (keys : List SettingsKey) :
      (key :: keys).findSome? (·.variableFault? environment) =
        (key.variableFault? environment).or (keys.findSome? (·.variableFault? environment)) := by
    rw [List.findSome?_cons]
    cases key.variableFault? environment <;> rfl
  have path : SettingsKey.databasePath.inEnvironment environment =
      environment (variablePrefix ++ "DB_PATH") := by
    cases given : environment (variablePrefix ++ "DB_PATH") <;>
      simp [SettingsKey.inEnvironment, SettingsKey.environmentName?, SettingsKey.ofVariable?, given]
  have sets : (Overrides.ofKeys fun key => key.inEnvironment environment) =
      { Overrides.ofKeys fun key => key.inEnvironment environment with
        databasePath := environment (variablePrefix ++ "DB_PATH") } := by
    rw [Overrides.ofKeys, path]
  rw [sets]
  simp only [SettingsKey.all, cons, variableFault?_gradeBands, variableFault?_databasePath,
    Option.none_or, List.findSome?_nil]
  exact (reading .codeAnalysis Settings.readBool rfl fun _ => rfl).bind <|
    (reading .scanInterval Settings.readInt rfl fun _ => rfl).bind <|
    (reading .detectionLevel Settings.readLevel rfl fun _ => rfl).bind <|
    (reading .performanceMonitoring Settings.readBool rfl fun _ => rfl).bind <|
    (reading .performanceInterval Settings.readInt rfl fun _ => rfl).bind <|
    (reading .cpuThreshold Settings.readFloat rfl fun _ => rfl).bind <|
    (reading .memoryThreshold Settings.readFloat rfl fun _ => rfl).bind <|
    (reading .eventLoopThreshold Settings.readFloat rfl fun _ => rfl).bind <|
    (reading .sustainedAlertDuration Settings.readInt rfl fun _ => rfl).bind <|
    (reading .alertCooldown Settings.readInt rfl fun _ => rfl).bind <|
    (reading .retentionDays Settings.readInt rfl fun _ => rfl).bind <| .pure _

/-! ### Loading -/

/-- The first fault of the sources: that of the user's file, that of the project's file, that of the first
variable that has one. -/
def firstFault? (user project : Option SettingsSource) (environment : String → Option String) :
    Option SettingsError :=
  (user.bind (·.fault?)).or
    ((project.bind (·.fault?)).or (SettingsKey.all.findSome? (·.variableFault? environment)))

/-- Loading puts the sources over each other, unless one of them has a fault. -/
theorem settles_load (user project : Option SettingsSource) (environment : String → Option String) :
    Settles (Settings.load user project environment) (firstFault? user project environment)
      (((Settings.standard.override (.ofKeys fun key => user.bind (·.sets key))).override
        (.ofKeys fun key => project.bind (·.sets key))).override
          (.ofKeys fun key => key.inEnvironment environment)) := by
  rw [firstFault?, ← Option.or_none (o := SettingsKey.all.findSome? _)]
  exact (settles_overridesOf user).bind <| (settles_overridesOf project).bind <|
    (settles_ofEnvironment environment).bind <| .pure _

/-- Every number means a level, one out of range the nearest. -/
theorem Level.number_ofInt (n : Int) : ((ofInt n).number : Int) = max 1 (min n 3) := by
  unfold ofInt
  split
  · rw [number]
    omega
  · split
    · rw [number]
      omega
    · rw [number]
      omega

theorem Level.number_bounds (level : Level) : 1 ≤ level.number ∧ level.number ≤ 3 := by
  cases level <;> decide

/-- **Sources of settings override each other key by key.** Loading fails exactly if one of the sources has
a fault, and tells the first one: that of the user's file, else that of the project's file, else that of
the first variable, in the order of the keys, whose text cannot be read. Otherwise every key has the value
of the environment if its variable is set, else that of the project's file, else that of the user's file,
else the standard one, whatever the other keys are set to. The detection level is one of the three, and a
number beyond them means the nearest. -/
theorem load_key_by_key (user project : Option SettingsSource)
    (environment : String → Option String) :
    (∀ error, Settings.load user project environment = .error error ↔
      firstFault? user project environment = some error) ∧
    (firstFault? user project environment = none →
      ∃ settings, Settings.load user project environment = .ok settings ∧
        (∀ key : SettingsKey, settings.get key =
          (key.inEnvironment environment).or
            ((project.bind (·.sets key)).or
              ((user.bind (·.sets key)).or (Settings.standard.get key)))) ∧
        1 ≤ settings.detectionLevel.number ∧ settings.detectionLevel.number ≤ 3) ∧
    ∀ n : Int, ((Level.ofInt n).number : Int) = max 1 (min n 3) := by
  have settles := settles_load user project environment
  refine ⟨fun error => ?_, fun faultless => ?_, Level.number_ofInt⟩
  · rw [settles]
    cases firstFault? user project environment <;> simp
  · rw [Settles, faultless] at settles
    refine ⟨_, settles, fun key => ?_, Level.number_bounds _⟩
    simp only [Settings.get_override, Overrides.get_ofKeys]

/-- A user's file that sets three keys. -/
def userLayer : SettingsSource where
  path := "settings.toml"
  text := .ok "alertCooldown = 60\nscanInterval = 5\ndetectionLevel = 9"

/-- A project's file that sets two of them. -/
def projectLayer : SettingsSource where
  path := "flowsentry.toml"
  text := .ok "alertCooldown = 90\nscanInterval = 7"

/-- An environment that sets one of these. -/
def cooldownVariable (name : String) : Option String :=
  if name = "FLOWSENTRY_ALERT_COOLDOWN" then some " 120 " else none

/-- Each key has the value of the last source that sets it, and the level is one of the three. -/
theorem load_key_by_key_layers :
    firstFault? (some userLayer) (some projectLayer) cooldownVariable = none ∧
      ∃ settings, Settings.load (some userLayer) (some projectLayer) cooldownVariable = .ok settings ∧
        settings.get .alertCooldown = some 120 ∧ settings.get .scanInterval = some 7 ∧
        settings.get .detectionLevel = some (.ofInt 9) ∧
        settings.get .cpuThreshold = Settings.standard.get .cpuThreshold ∧
        1 ≤ settings.detectionLevel.number ∧ settings.detectionLevel.number ≤ 3 := by
  have faultless : firstFault? (some userLayer) (some projectLayer) cooldownVariable = none := by
    decide +kernel
  obtain ⟨-, loads, -⟩ := load_key_by_key (some userLayer) (some projectLayer) cooldownVariable
  obtain ⟨settings, loaded, keys, bounds⟩ := loads faultless
  refine ⟨faultless, settings, loaded, (keys .alertCooldown).trans ?_, (keys .scanInterval).trans ?_,
    (keys .detectionLevel).trans ?_, (keys .cpuThreshold).trans ?_, bounds⟩
  · decide +kernel
  · decide +kernel
  · decide +kernel
  · decide +kernel

/-- Of two variables that cannot be read, the one whose key comes first is told. A file that sets the key
of the other one does not matter. -/
example :
    firstFault? none (some ⟨"flowsentry.toml", .ok "alertCooldown = 60"⟩) (fun name =>
        if name = "FLOWSENTRY_ALERT_COOLDOWN" then some "soon"
        else if name = "FLOWSENTRY_SCAN_INTERVAL" then some "9s" else none) =
      some (.invalidVariable "FLOWSENTRY_SCAN_INTERVAL" "9s") := by decide +kernel

end FlowAudit
