import FlowAudit.Settings.Environment
import FlowAudit.Settings.File

/-!
# FlowAudit.Settings.Load

Putting settings together: the standard ones, over them those of the user's file, those of the
project's file, and those of the environment.
-/

namespace FlowAudit

/-- A file of settings: its path, and its text if it can be read. -/
structure SettingsSource where
  path : String
  text : Except FileFault String

/-- What a file sets. -/
def SettingsSource.overrides (source : SettingsSource) : Except SettingsError (Overrides Float) :=
  match source.text with
  | .error fault => .error (.read source.path fault)
  | .ok text =>
    match Settings.ofText? text with
    | some overrides => .ok overrides
    | none => .error (.parse source.path)

/-- What a file sets that there may be. -/
def overridesOf : Option SettingsSource → Except SettingsError (Overrides Float)
  | none => .ok {}
  | some source => source.overrides

/-- The settings in force. Of several faults that of the user's file is told first, then that of the
project's file, then that of the environment. -/
def Settings.load (user project : Option SettingsSource) (environment : String → Option String) :
    Except SettingsError (Settings Float) := do
  let user ← overridesOf user
  let project ← overridesOf project
  let surroundings ← Settings.ofEnvironment environment
  return ((Settings.standard.override user).override project).override surroundings

end FlowAudit
