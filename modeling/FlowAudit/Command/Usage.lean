/-!
# FlowAudit.Command.Usage

What a command line can be instead of a command: a question about the program, or a mistake.
-/

namespace FlowAudit.Command

/-- Why a command line gives no command. -/
inductive UsageError where
  /-- Help is asked for. -/
  | help
  /-- The version is asked for. -/
  | version
  /-- There is nothing on the line. -/
  | nothingGiven
  /-- There are options, but no command. -/
  | missingCommand
  | unknownCommand (name : String)
  /-- An argument that the command cannot do without. -/
  | missingArgument (name : String)
  | unknownArgument (text : String)
  /-- An option without the value that it needs, or with an empty one. -/
  | missingValue (name : String)
  /-- A value for an option that takes none. -/
  | needlessValue (name : String)
  /-- A value that is not among those to choose from. -/
  | notAChoice (text : String) (choices : List String)
  /-- A value that cannot be read as what it should be. -/
  | malformedValue (text : String)
  /-- An option that is given twice. -/
  | repeated (name : String)
  /-- Options that cannot be used together. -/
  | conflict (name other : String)
  deriving Repr, DecidableEq

namespace UsageError

/-- Whether the line is a question rather than a mistake. -/
def isQuestion : UsageError → Bool
  | help | version => true
  | _ => false

/-- The code that the program ends with. -/
def exitCode (error : UsageError) : Nat :=
  if error.isQuestion then 0 else 2

/-- The words for a mistake. -/
def message : UsageError → String
  | help => "help"
  | version => "version"
  | nothingGiven => "a command is needed"
  | missingCommand => "a command is needed after the options"
  | unknownCommand name => "unrecognized command '" ++ name ++ "'"
  | missingArgument name => "the argument <" ++ name ++ "> is needed"
  | unknownArgument text => "unexpected argument '" ++ text ++ "'"
  | missingValue name => "a value is needed for '" ++ name ++ "'"
  | needlessValue name => "'" ++ name ++ "' takes no value"
  | notAChoice text choices =>
    "'" ++ text ++ "' is none of: " ++ String.intercalate ", " choices
  | malformedValue text => "'" ++ text ++ "' is no valid value"
  | repeated name => "'" ++ name ++ "' cannot be given twice"
  | conflict name other => "'" ++ name ++ "' cannot be used with '" ++ other ++ "'"

end UsageError

end FlowAudit.Command
