import FlowAudit.Command.Session
import FlowAudit.Pass.Readiness
import FlowAudit.Render.Activity
import FlowAudit.Render.Quality

/-!
# FlowAudit.Command.Scan

The tasks that read an export: scanning all of it, once or again and again, and analysing one unit.
-/

namespace FlowAudit.Command

open FlowAudit.Render

variable {m : Type → Type} [Monad m] [Host m]

/-- The export in a file. -/
def exportAt (path : String) : TaskM m Export := do
  return Export.ofFile path (← host (Host.readText path))

/-- Wait for an export, or have a single look at it. -/
def awaitExport (path : String) (wait : Bool) : TaskM m Unit := do
  let gate := if wait then ReadinessGate.standard else .ofAttempts 1
  let poll := fun _ => return (← Host.look path) = some .file
  let (gate, _) ← host (gate.waitWith poll (Host.pause ReadinessGate.standardPause))
  if gate.state ≠ .ready then throw (.unavailable path gate.maxAttempts)

/-- Scan an export once and show what came of it. -/
def scanOnce (session : Session) (path : String) (level : Level) : TaskM m Unit := do
  let source ← exportAt path
  let start ← host Host.now
  let (result, _) ← host (Host.onStore (scan level start source .idle))
  match result with
  | .error error => throw (.scan path error)
  | .ok report =>
    let report : PassReport Float :=
      { report with durationMs := ((← host Host.now).since start).wholeMillis.toNat }
    session.emit report.view

/-- Scan an export every so many seconds. A scan that fails does not end it. -/
def scanAgain (session : Session) (path : String) (level : Level) (seconds : Nat) : TaskM m Unit :=
  let round (_ : Unit) : m Unit := do
    match ← (scanOnce session path level).run with
    | .ok () => return ()
    | .error error => Host.log .warn ("scan failed: " ++ String.intercalate ": " error.messages)
  host (Host.rounds seconds none round ())

/-- Scan an export. -/
def scanTask (session : Session) (path : String) (level : Option Level) (wait watch : Bool) :
    TaskM m Unit := do
  if !session.settings.codeAnalysis then
    printPage (line [dim "[--]", " Code analysis is disabled (codeAnalysis = false)"])
  else
    awaitExport path wait
    let level := level.getD session.settings.detectionLevel
    let seconds := session.settings.scanInterval
    if !watch then scanOnce session path level
    else if seconds ≤ 0 then throw (.noScanInterval seconds)
    else scanAgain session path level seconds.toNat

/-- Analyse one unit of an export. -/
def unitTask (session : Session) (path id : String) : TaskM m Unit := do
  match (← exportAt path).findUnit id with
  | .error error => throw (.source error)
  | .ok none => throw (.noUnit id path)
  | .ok (some unit) =>
    let analysis : UnitAnalysis Float :=
      unit.analysis session.settings.gradeBands (← host Host.now)
    session.emit analysis

end FlowAudit.Command
