import FlowAudit.Command.Error
import FlowAudit.Command.Host
import FlowAudit.Settings.Load

/-!
# FlowAudit.Command.Session

What a task works with: settings, a store, and a format to write in.
-/

namespace FlowAudit.Command

open FlowAudit.Render FlowAudit.Json

/-- Work that may fail. -/
abbrev TaskM (m : Type → Type) := ExceptT TaskError m

/-- What a task works with, next to the open store. -/
structure Session where
  settings : Settings Float
  /-- The file of the store, if it has one. -/
  database : Option String
  format : Format
  /-- What is wrong with the settings. -/
  problems : List String

variable {m : Type → Type} [Monad m]

/-- Something that the host does. -/
def host {α : Type} (action : m α) : TaskM m α :=
  ExceptT.lift action

variable [Host m]

/-- Print a page. -/
def printPage (page : Page) : TaskM m Unit := do
  if ← host Host.styled then host (Host.print page.colored) else host (Host.print page.plain)

/-- Print a report and end its line. -/
def Session.emit {α : Type} [ToPage α] [ToValue α] (session : Session) (report : α) :
    TaskM m Unit := do
  let styled ← host Host.styled
  host (Host.print (render session.format styled report ++ "\n"))

/-- Do something with the open store that may fail. -/
def onStore {α : Type} (action : StoreM Bytes α) : TaskM m α := do
  match ← host (Host.onStore action.run) with
  | .ok a => return a
  | .error error => throw (.store error)

/-- A file of settings that has to be there. -/
def settingsAt (path : String) : TaskM m SettingsSource := do
  return { path, text := ← host (Host.readText path) }

/-- A file of settings that may be missing. -/
def settingsIfAny (path : String) : TaskM m (Option SettingsSource) := do
  match ← host (Host.look path) with
  | some _ => return some (← settingsAt path)
  | none => return none

/-- The settings for a project, perhaps from a file that is asked for. -/
def loadSettings (project : String) (config : Option String) : TaskM m (Settings Float) := do
  let projectSource ← match config with
    | some path => pure (some (← settingsAt path))
    | none => settingsIfAny (Path.join project projectFile)
  let userSource ← match ← host Host.userSettings with
    | some path => settingsIfAny path
    | none => pure none
  let environment ← Settings.variableNames.mapM fun name => do
    return (name, ← host (Host.lookUp name))
  match Settings.load userSource projectSource fun name => (environment.lookup name).join with
  | .ok settings => return settings
  | .error error => throw (.settings error)

/-- Open the store for an invocation. The result is its file, if it has one. -/
def openStore (invocation : Invocation) (settings : Settings Float) :
    TaskM m (Option String) := do
  let database :=
    if invocation.inMemory then none
    else some (invocation.database.getD (settings.databaseFile invocation.project))
  match database, ← host (Host.openStore database) with
  | some path, .error error => throw (.database path error)
  | none, .error error => throw (.store error)
  | database, .ok () => return database

/-- Get ready for a task. -/
def Session.start (invocation : Invocation) : TaskM m Session := do
  let settings ← loadSettings invocation.project invocation.config
  let problems := settings.problems.map SettingsProblem.message
  for problem in problems do
    host (Host.log .warn problem)
  return { settings, database := ← openStore invocation settings, format := invocation.format
           problems }

end FlowAudit.Command
