import FlowAudit.Command.Invocation
import FlowAudit.Health.Monitor
import FlowAudit.Log.JsonRow
import FlowAudit.Workspace.Fault

/-!
# FlowAudit.Command.Host

Where the program runs: files, an environment, a clock, a process to watch, a store, and a place to
write to. Tasks are written over any monad that has these, so that they can be run on the machine as
well as on a description of one.
-/

namespace FlowAudit.Command

/-- What can stand at a path. -/
inductive FileKind where
  | file
  | folder
  deriving Repr, DecidableEq

/-- Where the program runs. -/
class Host (m : Type → Type) where
  /-- What stands at a path, if anything does. -/
  look : String → m (Option FileKind)
  readText : String → m (Except FileFault String)
  writeText : String → String → m (Except FileFault Unit)
  /-- The value of a variable of the environment. -/
  lookUp : String → m (Option String)
  /-- The path of the user's own file of settings. -/
  userSettings : m (Option String)
  now : m Instant
  /-- Look at the process that is watched. -/
  observe : m (Observation Float)
  /-- Wait for a number of seconds. -/
  pause : Nat → m Unit
  print : String → m Unit
  /-- Whether what is printed may have styles. -/
  styled : m Bool
  /-- Tell something about the program's own work. -/
  log : LogLevel → String → m Unit
  /-- Open the store in a file, and make one if there is none; without a path, a store that is gone
  afterwards. -/
  openStore : Option String → m (Except StoreError Unit)
  /-- Do something with the store that is open. -/
  onStore {α : Type} : StateM (Store Bytes) α → m α
  /-- Do a round at once and then one every so many seconds, each with what the one before it left,
  until there were enough of them or the user ends it. -/
  rounds {σ : Type} (every : Nat) (limit : Option Nat) (round : σ → m σ) (start : σ) : m Unit

end FlowAudit.Command
