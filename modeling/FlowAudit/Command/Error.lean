import FlowAudit.Log.Store
import FlowAudit.Pass.Run
import FlowAudit.Settings.Error

/-!
# FlowAudit.Command.Error

What can go wrong with a task. Some errors are causes that other parts of the program give; of these,
some are told together with what the task was about.
-/

namespace FlowAudit.Command

/-- An error of another part of the program. -/
inductive Cause where
  | settings (error : SettingsError)
  | store (error : StoreError)
  | source (error : ExportError)
  | pass (error : PassError)
  /-- An export was not there after a number of looks. -/
  | notReady (attempts : Nat)
  deriving Repr, DecidableEq

/-- The words for a cause. -/
def Cause.message : Cause → String
  | settings error => error.message
  | store error => error.message
  | source error => error.message
  | pass error => error.message
  | notReady attempts => "collector not ready after " ++ Nat.repr attempts ++ " attempts"

/-- Why a task is not done. -/
inductive TaskError where
  /-- The settings cannot be loaded. -/
  | settings (error : SettingsError)
  /-- The store cannot be opened. -/
  | database (path : String) (error : StoreError)
  /-- The folder that is to get a file of settings is none. -/
  | notAFolder (path : String)
  /-- The file of settings cannot be written. -/
  | unwritten (error : SettingsError)
  /-- The export to scan is not there. -/
  | unavailable (path : String) (attempts : Nat)
  /-- There are to be no scans by themselves. -/
  | noScanInterval (seconds : Int)
  /-- The scan of an export failed. -/
  | scan (path : String) (error : PassError)
  /-- An export cannot be read. -/
  | source (error : ExportError)
  /-- An export has no such unit. -/
  | noUnit (id path : String)
  /-- There are no records of a group. -/
  | noGroup (id : String)
  /-- There are to be no samples. -/
  | noSampleInterval
  /-- Records cannot be kept for so many days. -/
  | retention (days : Int)
  /-- Removing everything was not confirmed. -/
  | unconfirmed
  /-- The store failed. -/
  | store (error : StoreError)
  deriving Repr, DecidableEq

namespace TaskError

/-- What is told first, in words of its own. -/
def context : TaskError → Option String
  | settings _ => some "Failed to load configuration"
  | database path _ => some ("Failed to open database " ++ path)
  | notAFolder path => some ("Path is not a directory: " ++ path)
  | unwritten _ => some "Failed to write configuration"
  | unavailable path _ => some ("Flow export not available: " ++ path)
  | noScanInterval seconds =>
    some ("scanInterval is " ++ toString seconds ++ "; periodic scanning is disabled")
  | scan path _ => some ("Scan of " ++ path ++ " failed")
  | source _ => none
  | noUnit id path => some ("Function node '" ++ id ++ "' not found in " ++ path)
  | noGroup id =>
    some ("No scan records for flow '" ++ id ++ "'. Run `flowsentry scan` first.")
  | noSampleInterval =>
    some "Sampling interval must be positive; set performanceInterval or pass --interval"
  | retention days => some ("Retention must be a positive number of days, got " ++ toString days)
  | unconfirmed => some "Refusing to delete every record without --yes"
  | store _ => none

/-- What lies behind it. -/
def cause : TaskError → Option Cause
  | settings error | unwritten error => some (.settings error)
  | database _ error | store error => some (.store error)
  | unavailable _ attempts => some (.notReady attempts)
  | scan _ error => some (.pass error)
  | source error => some (.source error)
  | _ => none

/-- All that is told, the outermost first. -/
def messages (error : TaskError) : List String :=
  error.context.toList ++ (error.cause.map Cause.message).toList

end TaskError

end FlowAudit.Command
