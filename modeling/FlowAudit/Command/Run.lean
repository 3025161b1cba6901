import FlowAudit.Command.Init
import FlowAudit.Command.Reader
import FlowAudit.Command.Scan
import FlowAudit.Command.Watch

/-!
# FlowAudit.Command.Run

Doing what a command line asks for.
-/

namespace FlowAudit.Command

open FlowAudit.Render

variable {m : Type → Type} [Monad m] [Host m]

/-- Show the quality of all groups. -/
def summaryTask (session : Session) : TaskM m Unit := do
  session.emit (← onStore (Store.qualitySummary session.settings.gradeBands))

/-- Show the quality of the last hours. -/
def historyTask (session : Session) (hours : Nat) : TaskM m Unit := do
  let now ← host Host.now
  let report : QualityHistory Float ← onStore (Store.qualityHistory hours now)
  session.emit report

/-- Show one group. -/
def groupTask (session : Session) (id : String) : TaskM m Unit := do
  match ← onStore (Store.groupDetail id session.settings.gradeBands) with
  | some detail => session.emit detail
  | none => throw (.noGroup id)

/-- Show the state of the store and of the settings. -/
def statusTask (session : Session) : TaskM m Unit := do
  session.emit (← onStore (Store.status session.database session.problems))

/-- Remove all records. -/
def clearTask (confirmed : Bool) : TaskM m Unit := do
  if !confirmed then throw .unconfirmed
  let counts ← onStore Store.counts
  onStore Store.clear
  printPage (line [tick, " Deleted " ++ Nat.repr counts.total ++ " records"])

/-- Do a task that works with settings and a store. -/
def Session.perform (session : Session) : Task → TaskM m Unit
  | .init => return ()
  | .scan flows level wait watch => scanTask session flows level wait watch
  | .unit flows id => unitTask session flows id
  | .summary => summaryTask session
  | .history hours => historyTask session hours
  | .group id => groupTask session id
  | .monitor ticks interval force => monitorTask session ticks interval force
  | .performance history => performanceTask session history
  | .alerts limit => alertsTask session limit
  | .prune days => pruneTask session days
  | .status => statusTask session
  | .clear confirmed => clearTask confirmed

/-- Do what is asked for. Writing example settings needs none of the settings that there are. -/
def Invocation.run (invocation : Invocation) : TaskM m Unit := do
  match invocation.task with
  | .init => initProject invocation.project
  | task => (← Session.start invocation).perform task

end FlowAudit.Command
