import FlowAudit.Command.Grammar
import FlowAudit.Command.Invocation
import FlowAudit.Number.Numeral
import FlowAudit.Number.Word

/-!
# FlowAudit.Command.Reader

The command line of the program. Options for all commands stand before the name of the command or
after it, or both, where the later one counts; but on one side each can be given once.
-/

namespace FlowAudit.Command

open FlowAudit.Render (Format)
open Parameter (ValueReader)

/-! ### Values -/

/-- A path, which cannot be empty. -/
def readPath (name : String) : ValueReader String := fun text =>
  if text.isEmpty then .error (.missingValue name) else .ok text

/-- Any text. -/
def readAny : ValueReader String := .ok

/-- One of some things by its name. -/
def readChoice {α : Type} (name : α → String) (choices : List α) : ValueReader α := fun text =>
  match choices.find? (name · = text) with
  | some choice => .ok choice
  | none => .error (.notAChoice text (choices.map name))

/-- A value that not every text stands for. -/
def readOf {α : Type} (read? : List Char → Option α) : ValueReader α := fun text =>
  match read? text.toList with
  | some a => .ok a
  | none => .error (.malformedValue text)

/-- The level of a scan. -/
def level? (text : List Char) : Option Level := do
  let n ← Number.int64? text
  if 1 ≤ n ∧ n ≤ 3 then some (Level.ofInt n) else none

/-- A number of hours; that it may be a zero with a minus does not matter. -/
def hours? (text : List Char) : Option Nat := do
  let n ← Number.int64? text
  if 0 ≤ n ∧ Number.fitsNat 32 n.toNat then some n.toNat else none

/-- A number of things. -/
def count? (text : List Char) : Option Nat :=
  Number.natural? 64 text

/-! ### Options for all commands -/

/-- The options for all commands as they are given on one side of the command's name. -/
structure Common where
  project : Option String := none
  config : Option String := none
  database : Option String := none
  inMemory : Bool := false
  format : Option Format := none
  logLevel : Option LogLevel := none
  deriving Repr, DecidableEq

namespace Common

def parameters : List (Parameter Common) :=
  [.valued "project" (some 'C') (readPath "project") project fun a c => { c with project := some a },
    .valued "config" none (readPath "config") config fun a c => { c with config := some a },
    .valued "db" none (readPath "db") database fun a c => { c with database := some a },
    .flag "in-memory" inMemory fun c => { c with inMemory := true },
    .valued "format" (some 'f') (readChoice Format.name [.text, .json]) format
      fun a c => { c with format := some a },
    .valued "log-level" none (readChoice LogLevel.name LogLevel.all) logLevel
      fun a c => { c with logLevel := some a },
    .question "help" 'h' .help]

/-- Whether options of one side go together. -/
def check (c : Common) : Except UsageError Unit :=
  if c.inMemory && c.database.isSome then .error (.conflict "in-memory" "db") else .ok ()

/-- The options of both sides together. -/
def merge (before after : Common) : Common where
  project := after.project.or before.project
  config := after.config.or before.config
  database := after.database.or before.database
  inMemory := after.inMemory || before.inMemory
  format := after.format.or before.format
  logLevel := after.logLevel.or before.logLevel

/-- A task with the options for it. -/
def invocation (c : Common) (task : Task) : Invocation where
  project := c.project.getD "."
  config := c.config
  database := c.database
  inMemory := c.inMemory
  format := c.format.getD .text
  logLevel := c.logLevel.getD .warn
  task

end Common

/-! ### Commands -/

/-- A command: its name, what it is for, and how the words after its name are read. -/
structure CommandForm where
  name : String
  purpose : String
  read : List String → Except UsageError (Common × Task)

namespace CommandForm

/-- A command with parameters of its own. -/
def ofParameters {δ : Type} (name purpose : String) (draft : δ)
    (parameters positions : List (Parameter δ)) (task : δ → Except UsageError Task) :
    CommandForm where
  name
  purpose
  read words := do
    let grammar : Grammar (Common × δ) :=
      { parameters := Common.parameters.map .first ++ parameters.map .second
        positions := positions.map .second }
    let (progress, _) ← grammar.readFrom ({}, draft) words
    let (common, draft) := (← progress.settle).draft
    common.check
    return (common, ← task draft)

/-- A command without parameters of its own. -/
def bare (name purpose : String) (task : Task) : CommandForm :=
  ofParameters name purpose () [] [] fun _ => .ok task

/-- A command with a single option that has a value. -/
def single {α : Type} (name purpose option : String) (read : ValueReader α)
    (task : Option α → Task) : CommandForm :=
  ofParameters name purpose none [.valued option none read id fun a _ => some a] []
    fun value => .ok (task value)

end CommandForm

/-- A value that has to be given. -/
def needed {α : Type} (name : String) : Option α → Except UsageError α
  | some a => .ok a
  | none => .error (.missingArgument name)

/-- A parameter by position. -/
def positional {α δ : Type} (name : String) (read : ValueReader α) (get : δ → Option α)
    (set : α → δ → δ) : Parameter δ :=
  .valued name none read get set

/-- The arguments of a scan as they are given. -/
structure ScanDraft where
  flows : Option String := none
  level : Option Level := none
  wait : Bool := false
  watch : Bool := false

/-- The arguments of a monitor as they are given. -/
structure MonitorDraft where
  ticks : Option Nat := none
  interval : Option Nat := none
  force : Bool := false

/-- The arguments of an analysis as they are given. -/
structure UnitDraft where
  flows : Option String := none
  id : Option String := none

def scanForm : CommandForm :=
  .ofParameters "scan" "Scan the function nodes of a flow export" ({} : ScanDraft)
    [.valued "level" (some 'l') (readOf level?) ScanDraft.level fun a d => { d with level := some a },
      .flag "wait" ScanDraft.wait fun d => { d with wait := true },
      .flag "watch" ScanDraft.watch fun d => { d with watch := true }]
    [positional "flows" (readPath "flows") ScanDraft.flows fun a d => { d with flows := some a }]
    fun d => return .scan (← needed "flows" d.flows) d.level d.wait d.watch

def unitForm : CommandForm :=
  .ofParameters "unit" "Analyze one function node with every rule, without saving" ({} : UnitDraft) []
    [positional "flows" (readPath "flows") UnitDraft.flows fun a d => { d with flows := some a },
      positional "unit-id" readAny UnitDraft.id fun a d => { d with id := some a }]
    fun d => return .unit (← needed "flows" d.flows) (← needed "unit-id" d.id)

def groupForm : CommandForm :=
  .ofParameters "group" "Latest issues of one flow, per function node" (none : Option String) []
    [positional "id" readAny id fun a _ => some a]
    fun d => return .group (← needed "id" d)

def monitorForm : CommandForm :=
  .ofParameters "monitor" "Sample process health and raise alerts on sustained violations"
    ({} : MonitorDraft)
    [.valued "ticks" none (readOf count?) MonitorDraft.ticks fun a d => { d with ticks := some a },
      .valued "interval" none (readOf count?) MonitorDraft.interval
        fun a d => { d with interval := some a },
      .flag "force" MonitorDraft.force fun d => { d with force := true }] []
    fun d => .ok (.monitor d.ticks d.interval d.force)

def clearForm : CommandForm :=
  .ofParameters "clear" "Delete every stored record" false
    [.flag "yes" id fun _ => true] [] fun confirmed => .ok (.clear confirmed)

/-- The hours that a history goes back where no number is given. -/
def defaultHours : Nat := 24

/-- The number of alerts that are listed where no number is given. -/
def defaultAlerts : Nat := 20

/-- The commands of the program. -/
def commandForms : List CommandForm :=
  [.bare "init" "Write a flowsentry.toml with example settings" .init,
    scanForm,
    unitForm,
    .bare "summary" "Quality summary across flows from the latest scans" .summary,
    .single "history" "Hourly quality history" "hours" (readOf hours?)
      fun hours => .history (hours.getD defaultHours),
    groupForm,
    monitorForm,
    .single "perf" "Current performance, averages, trends and recent alerts" "history" (readOf count?)
      .performance,
    .single "alerts" "Recent threshold alerts, newest first" "limit" (readOf count?)
      fun limit => .alerts (limit.getD defaultAlerts),
    .single "prune" "Delete samples and alerts past retention" "days" (readOf Number.int64?) .prune,
    .bare "status" "Show database location, record counts and config problems" .status,
    clearForm]

/-- The command that asks for help. -/
def helpCommand : String := "help"

/-- The command of a name. -/
def findCommand? (name : String) : Option CommandForm :=
  commandForms.find? (·.name = name)

/-- What the words after a request for help come to: each of them has to be a command of the one
before it. -/
def askHelp : List String → UsageError
  | [] => .help
  | [name] => if name = helpCommand || (findCommand? name).isSome then .help else .unknownCommand name
  | name :: next :: _ =>
    if name = helpCommand || (findCommand? name).isSome then .unknownCommand next
    else .unknownCommand name

/-- The grammar of the line up to the name of the command. -/
def topGrammar : Grammar Common where
  parameters := Common.parameters ++ [.question "version" 'V' .version]
  commands := commandForms.map CommandForm.name ++ [helpCommand]

/-- The invocation that the words of a command line stand for. What is wrong after the name of the
command is told before what is wrong with the last value in front of it. -/
def Invocation.ofArguments (words : List String) : Except UsageError Invocation := do
  match ← topGrammar.readFrom {} words with
  | (progress, []) =>
    let common := (← progress.settle).draft
    throw (if common = {} then .nothingGiven else .missingCommand)
  | (progress, name :: rest) =>
    match findCommand? name with
    | none => throw (askHelp rest)
    | some form =>
      let (after, task) ← form.read rest
      let before := (← progress.settle).draft
      before.check
      return (before.merge after).invocation task

end FlowAudit.Command
