import FlowAudit.Issue.Kind
import FlowAudit.Render.Format

/-!
# FlowAudit.Command.Invocation

What the program is asked to do.
-/

namespace FlowAudit.Command

/-- How much the program tells about its own work. -/
inductive LogLevel where
  | error
  | warn
  | info
  | debug
  | trace
  deriving Repr, DecidableEq

namespace LogLevel

def all : List LogLevel := [error, warn, info, debug, trace]

def name : LogLevel → String
  | error => "error"
  | warn => "warn"
  | info => "info"
  | debug => "debug"
  | trace => "trace"

/-- The place of a level among all levels, the most urgent one first. -/
def rank : LogLevel → Nat
  | error => 0
  | warn => 1
  | info => 2
  | debug => 3
  | trace => 4

/-- Whether messages of another level are told at this one. -/
def tells (level message : LogLevel) : Bool :=
  message.rank ≤ level.rank

end LogLevel

/-- The work that there is. -/
inductive Task where
  /-- Write a file of example settings. -/
  | init
  /-- Scan the units of an export. -/
  | scan (flows : String) (level : Option Level) (wait watch : Bool)
  /-- Analyse one unit of an export without storing anything. -/
  | unit (flows id : String)
  | summary
  | history (hours : Nat)
  | group (id : String)
  /-- Watch the health of the process. -/
  | monitor (ticks interval : Option Nat) (force : Bool)
  /-- Show the state of the process, or a number of samples. -/
  | performance (history : Option Nat)
  | alerts (limit : Nat)
  | prune (days : Option Int)
  | status
  | clear (confirmed : Bool)
  deriving Repr, DecidableEq

/-- A task and what it is to be done with. -/
structure Invocation where
  /-- The folder of the project. -/
  project : String := "."
  /-- A file of settings in place of that of the project. -/
  config : Option String := none
  /-- A file for the store in place of that of the settings. -/
  database : Option String := none
  /-- Whether to work with a store that is gone afterwards. -/
  inMemory : Bool := false
  format : Render.Format := .text
  logLevel : LogLevel := .warn
  task : Task
  deriving Repr, DecidableEq

end FlowAudit.Command
