import FlowAudit.Number.Decimal
import FlowAudit.Settings.Basic
import FlowAudit.Text.Quoted
import FlowAudit.Workspace.Fault

/-!
# FlowAudit.Settings.Error

What can go wrong with settings, in words.
-/

namespace FlowAudit

/-- Why settings cannot be loaded or written. -/
inductive SettingsError where
  | read (path : String) (fault : FileFault)
  /-- The file does not hold settings. -/
  | parse (path : String)
  | write (path : String) (fault : FileFault)
  /-- A variable of the environment holds something that its key cannot be set to. -/
  | invalidVariable (key value : String)
  deriving Repr, DecidableEq

/-- The words for it. -/
def SettingsError.message : SettingsError → String
  | read path fault => "failed to read " ++ path ++ ": " ++ fault.message
  | parse path => "failed to parse " ++ path
  | write path fault => "failed to write " ++ path ++ ": " ++ fault.message
  | invalidVariable key value => "invalid value " ++ Text.quoted value ++ " for " ++ key

/-- The words for a problem with settings. -/
def SettingsProblem.message : SettingsProblem Float → String
  | threshold metric value =>
    metric.name ++ " threshold must be positive, got " ++ String.ofList (Number.plain value) ++ "; "
      ++ metric.name ++ " monitoring disabled"
  | gradeBands => "grade bands must be strictly descending (a > b > c > d)"
  | retention days => "dbRetentionDays must be positive, got " ++ toString days

end FlowAudit
