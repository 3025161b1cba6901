import FlowAudit.Command.Session
import FlowAudit.Render.Activity
import FlowAudit.Render.Health

/-!
# FlowAudit.Command.Watch

The tasks about the health of the process: watching it, and showing and removing what was seen.
-/

namespace FlowAudit.Command

open FlowAudit.Render

variable {m : Type → Type} [Monad m] [Host m]

/-- What a monitor is to do: as the settings say, but with another interval if one is given. -/
def monitorConfig (settings : Settings Float) (interval : Option Nat) : MonitorConfig Float :=
  let config := MonitorConfig.ofSettings settings
  match interval with
  | none => config
  | some seconds => { config with interval := if seconds = 0 then none else some seconds }

/-- One tick: the report on it is printed under its number. -/
def watchRound (session : Session) (state : Monitor Float × Nat) : m (Monitor Float × Nat) := do
  let seen ← Host.observe
  let (report, monitor) ← Host.onStore (state.1.tick seen)
  let count := state.2 + 1
  Host.print (renderLine session.format (← Host.styled) (report.view count) ++ "\n")
  return (monitor, count)

/-- Watch the process. -/
def monitorTask (session : Session) (ticks interval : Option Nat) (force : Bool) :
    TaskM m Unit := do
  if !session.settings.performanceMonitoring && !force then
    printPage (line
      [dim "[--]", " Performance monitoring is disabled (performanceMonitoring = false). Use ",
        cyan "--force", " to run anyway."])
  else
    let config := monitorConfig session.settings interval
    match config.interval with
    | none => throw .noSampleInterval
    | some seconds =>
      if session.format = .text then
        printPage (line ["\nMonitoring process health. ", dim "Press Ctrl+C to stop", "\n"])
      let limit := Monitor.plannedTicks config ticks
      host (Host.rounds seconds limit (watchRound session) ({ config }, 0))

/-- Show the state of the process, or a number of samples. -/
def performanceTask (session : Session) : Option Nat → TaskM m Unit
  | some limit => do
    let report : PerformanceHistory Float ← onStore (Store.performanceHistory limit)
    session.emit report
  | none => do
    let now ← host Host.now
    session.emit (← onStore (Store.performanceSummary session.settings now))

/-- List alerts. -/
def alertsTask (session : Session) (limit : Nat) : TaskM m Unit := do
  let report : AlertListing Float ← onStore (Store.alertListing limit)
  session.emit report

/-- Remove old samples and alerts. -/
def pruneTask (session : Session) (days : Option Int) : TaskM m Unit := do
  let days := days.getD session.settings.retentionDays
  if days ≤ 0 then throw (.retention days)
  let now ← host Host.now
  session.emit (← onStore (prune Float days now))

end FlowAudit.Command
