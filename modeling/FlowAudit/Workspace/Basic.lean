import FlowAudit.Command.Host
import FlowAudit.Workspace.Tree

/-!
# FlowAudit.Workspace.Basic

A workspace: the description of a machine that the program can run on. Time stands still while a task
does its work and goes on while the task waits.
-/

namespace FlowAudit

open Command (FileKind Host)

/-- The store that is open. -/
inductive OpenStore where
  /-- One that is gone afterwards. -/
  | memory (store : Store Bytes)
  /-- One in a file. -/
  | file (place : Place)

/-- A machine that the program can run on. -/
structure Workspace where
  tree : FileTree := {}
  /-- The folder that the program is started in. -/
  here : Place := []
  environment : List (String × String) := []
  /-- The path of the user's own file of settings. -/
  userSettings : Option String := none
  now : Instant
  /-- What the watched process is read as. -/
  process : Option Reading := none
  store : OpenStore := .memory { keys := .counting }
  /-- What was printed. -/
  output : String := ""
  styled : Bool := false
  /-- The number of rounds after which the user ends what has no end of its own. -/
  patience : Nat := 0

namespace Workspace

/-- A workspace some time later. -/
def later (w : Workspace) (span : Span) : Workspace :=
  { w with now := (w.now.plus? span).getD w.now }

/-- The kind of an entry. -/
def kind : Entry → FileKind
  | .folder => .folder
  | .text _ | .store _ => .file

/-- The store that a file becomes when it is opened as one, if it can be. An empty file can. -/
def storeIn : Option Entry → Option (Store Bytes)
  | none | some (.text "") => some { keys := .afterLast }
  | some (.store store) => some store
  | some _ => none

/-- Open the store in a file whose folder is there. -/
def openFile (w : Workspace) (path : String) : Except FileFault Workspace := do
  let place ← w.tree.placeForFile w.here path
  match storeIn (w.tree.find? place) with
  | some store => return { w with tree := w.tree.put place (.store store), store := .file place }
  | none => throw .notText

/-- The open store. -/
def theStore (w : Workspace) : Store Bytes :=
  match w.store with
  | .memory store => store
  | .file place => (storeIn (w.tree.find? place)).getD { keys := .afterLast }

/-- A workspace with another state of the open store. -/
def setStore (w : Workspace) (store : Store Bytes) : Workspace :=
  match w.store with
  | .memory _ => { w with store := .memory store }
  | .file place => { w with tree := w.tree.put place (.store store) }

/-- Do something with the open store. -/
def onStore {α : Type} (action : StateM (Store Bytes) α) (w : Workspace) : α × Workspace :=
  let (a, store) := action.run w.theStore
  (a, w.setStore store)

/-- Open a store; without a path, one that is gone afterwards. The folder of a file is made first. -/
def openStore (path : Option String) (w : Workspace) : Except StoreError Unit × Workspace :=
  match path with
  | none => (.ok (), { w with store := .memory { keys := .counting } })
  | some path =>
    let w := { w with tree := w.tree.makeParent w.here path }
    match w.openFile path with
    | .ok w => (.ok (), w)
    | .error _ => (.error .notAStore, w)

/-- What is seen of the watched process. Its clock is that of the workspace, and nothing lags. -/
def observation (w : Workspace) : Observation Float where
  reading := w.process
  clock := (w.now.unixNanos?.getD 0).toNat
  lag := 0
  now := w.now

/-- Do rounds with a wait between them. -/
def repeatRounds {σ : Type} (every : Span) (round : σ → StateM Workspace σ) :
    Nat → σ → StateM Workspace Unit
  | 0, _ => return ()
  | 1, s => do
    let _ ← round s
  | n + 2, s => do
    let s ← round s
    modify fun w => w.later every
    repeatRounds every round (n + 1) s

instance : Host (StateM Workspace) where
  look path := return ((← get).tree.entryAt (← get).here path).map kind
  readText path := return (← get).tree.readText (← get).here path
  writeText path text := do
    let w ← get
    match w.tree.writeText w.here path text with
    | .ok tree =>
      set { w with tree }
      return .ok ()
    | .error fault => return .error fault
  lookUp name := return (← get).environment.lookup name
  userSettings := return (← get).userSettings
  now := return (← get).now
  observe := return (← get).observation
  pause seconds := modify fun w => w.later ((Span.ofSeconds? seconds).getD Span.longest)
  print text := modify fun w => { w with output := w.output ++ text }
  styled := return (← get).styled
  log _ _ := return ()
  openStore path := fun w => openStore path w
  onStore action := fun w => onStore action w
  rounds every limit round start := do
    let count := limit.getD (← get).patience
    repeatRounds ((Span.ofSeconds? every).getD Span.longest) round count start

end Workspace

end FlowAudit
