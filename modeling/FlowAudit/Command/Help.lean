import FlowAudit.Command.Error
import FlowAudit.Command.Reader

/-!
# FlowAudit.Command.Help

What the program says about itself.
-/

namespace FlowAudit.Command

/-- The version of the program. -/
def versionText : String := "flowsentry 0.1.0"

/-- The line about a command. -/
def CommandForm.helpLine (form : CommandForm) : String :=
  "  " ++ Render.padRight 8 form.name ++ "  " ++ form.purpose

/-- The help page. -/
def helpText : String :=
  String.intercalate "\n"
    (["Detect leftover debugging in flow function nodes, score their quality and watch process health",
        "", "Usage: flowsentry [OPTIONS] <COMMAND>", "", "Commands:"]
      ++ commandForms.map CommandForm.helpLine
      ++ ["", "Options:",
        "  -C, --project <PATH>   Project directory, the current one by default",
        "      --config <PATH>    Config file to use instead of <project>/flowsentry.toml",
        "      --db <PATH>        Database file, overrides databasePath",
        "      --in-memory        Keep records in memory only",
        "  -f, --format <FORMAT>  text or json",
        "      --log-level <LEVEL>  error, warn, info, debug or trace",
        "  -h, --help             Print help",
        "  -V, --version          Print the version"])

/-- What is printed for a line that gives no command. -/
def UsageError.text : UsageError → String
  | .help => helpText
  | .version => versionText
  | .nothingGiven => helpText
  | error => "error: " ++ error.message ++ "\n\nFor more information, try '--help'."

/-- What is printed about a task that is not done: what is told first, and the causes under it. -/
def TaskError.text (error : TaskError) : String :=
  match error.messages with
  | [] => "Error"
  | [only] => "Error: " ++ only
  | first :: causes =>
    "Error: " ++ first ++ "\n\nCaused by:\n"
      ++ String.intercalate "\n" (causes.map ("    " ++ ·))

end FlowAudit.Command
