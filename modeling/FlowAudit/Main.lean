import FlowAudit.Command.Help
import FlowAudit.Command.Run
import FlowAudit.Health.Process
import FlowAudit.Log.File
import Std.Time.DateTime.Timestamp

/-!
# FlowAudit.Main

The program: a command line is read and done on the machine that the program is started on.
-/

namespace FlowAudit.Main

open FlowAudit.Command

/-- What is known while the program runs. -/
structure Machine where
  store : IO.Ref (Store Bytes)
  /-- The file of the open store, if it has one. -/
  file : IO.Ref (Option String)
  logLevel : LogLevel

/-- Work on the machine. -/
abbrev MachineM := ReaderT Machine IO

/-- What an error of the system says about a file. -/
def faultOf : IO.Error → FileFault
  | .noFileOrDirectory .. => .missing
  | .inappropriateType .. => .notAFolder
  | .invalidArgument _ 36 _ => .nameTooLong
  | error => .other (toString error)

/-- What stands at a path. -/
def look (path : String) : IO (Option FileKind) := do
  try
    match (← ((← IO.currentDir) / path).metadata).type with
    | .dir => return some .folder
    | _ => return some .file
  catch _ => return none

/-- The text of a file. -/
def readText (path : String) : IO (Except FileFault String) := do
  if (← look path) = some .folder then return .error .isFolder
  try return textOf (some (← IO.FS.readBinFile path))
  catch error => return .error (faultOf error)

/-- Write a text to a file. -/
def writeText (path text : String) : IO (Except FileFault Unit) := do
  try
    IO.FS.writeFile path text
    return .ok ()
  catch error => return .error (faultOf error)

/-- The time by the clock on the wall. -/
def now : IO Instant := do
  let nanos := (← Std.Time.Timestamp.now).toNanosecondsSinceUnixEpoch.val
  return (Instant.ofUnixNanos? nanos).getD Instant.latest

/-- The path of the user's own file of settings. -/
def userSettings : IO (Option String) := do
  let folder ← match ← IO.getEnv "XDG_CONFIG_HOME" with
    | some folder => if Path.isAbsolute folder then pure (some folder) else pure none
    | none => pure none
  let home ← IO.getEnv "HOME"
  return (folder.or (home.map fun home => Path.join home ".config")).map fun folder =>
    Path.join (Path.join folder "flowsentry") "config.toml"

/-- Look at the process of the program. The lag is what a wait for a millisecond takes longer. -/
def observe : IO (Observation Float) := do
  let start ← IO.monoNanosNow
  IO.sleep 1
  let clock ← IO.monoNanosNow
  let lag := Float.ofNat (clock - start - 1000000) / 1000000
  let reading ←
    try pure (Reading.ofTexts? (← IO.FS.readFile "/proc/self/stat") (← IO.FS.readFile "/proc/meminfo"))
    catch _ => pure none
  return { reading, clock, lag, now := ← now }

/-- The store in a file, which is made if it is missing. -/
def loadStore (path : String) : IO (Except StoreError (Store Bytes)) := do
  try
    let folder := Path.parent path
    if folder ≠ "" && (← look folder).isNone then IO.FS.createDirAll folder
    match ← look path with
    | none =>
      IO.FS.writeFile path (Store.toFileText { keys := .afterLast })
      return .ok { keys := .afterLast }
    | some _ =>
      match Store.ofFileText? (← IO.FS.readFile path) with
      | some store => return .ok store
      | none => return .error .notAStore
  catch _ => return .error .notAStore

/-- Open a store. -/
def openStore (path : Option String) : MachineM (Except StoreError Unit) := do
  let machine ← read
  machine.file.set path
  match path with
  | none =>
    machine.store.set { keys := .counting }
    return .ok ()
  | some path =>
    match ← loadStore path with
    | .ok store =>
      machine.store.set store
      return .ok ()
    | .error error => return .error error

/-- What tells whether a store was changed. -/
def mark (store : Store Bytes) : Tables (Nat × Nat) :=
  store.logs.map fun log => (log.size, log.bound)

/-- Do something with the open store, and write it to its file if that changed it. -/
def onStore {α : Type} (action : StateM (Store Bytes) α) : MachineM α := do
  let machine ← read
  let before ← machine.store.get
  let (a, after) := action.run before
  machine.store.set after
  if mark before ≠ mark after then
    if let some path ← machine.file.get then IO.FS.writeFile path after.toFileText
  return a

/-- Wait for a number of seconds. -/
def pause (seconds : Nat) : IO Unit :=
  IO.sleep (UInt32.ofNat (min (seconds * 1000) 4294967295))

/-- Round after round; without a limit, until the program is stopped from outside. -/
partial def rounds {σ : Type} (every : Nat) (limit : Option Nat) (round : σ → MachineM σ)
    (state : σ) : MachineM Unit := do
  if limit = some 0 then return
  let state ← round state
  if limit = some 1 then return
  pause every
  rounds every (limit.map (· - 1)) round state

instance : Host MachineM where
  look path := look path
  readText path := readText path
  writeText path text := writeText path text
  lookUp name := IO.getEnv name
  userSettings := userSettings
  now := now
  observe := observe
  pause seconds := pause seconds
  print text := do
    let output ← IO.getStdout
    output.putStr text
    output.flush
  styled := do (← IO.getStdout).isTty
  log level text := do
    if (← read).logLevel.tells level then IO.eprintln (level.name ++ ": " ++ text)
  openStore path := openStore path
  onStore action := onStore action
  rounds every limit round start := rounds every limit round start

/-- Do what a command line asks for; the code to end with. -/
def run (words : List String) : IO Nat := do
  match Invocation.ofArguments words with
  | .error error =>
    if error.isQuestion then IO.println error.text else IO.eprintln error.text
    return error.exitCode
  | .ok invocation =>
    let machine : Machine :=
      { store := ← IO.mkRef { keys := .counting }, file := ← IO.mkRef none
        logLevel := invocation.logLevel }
    match ← (invocation.run (m := MachineM)).run.run machine with
    | .ok () => return 0
    | .error error =>
      IO.eprintln error.text
      return 1

end FlowAudit.Main

def main (words : List String) : IO UInt32 := do
  return UInt32.ofNat (← FlowAudit.Main.run words)
