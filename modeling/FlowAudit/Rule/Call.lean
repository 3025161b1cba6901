import FlowAudit.Issue.Basic
import FlowAudit.Rule.Word
import FlowAudit.Source.Line

/-!
# FlowAudit.Rule.Call

Logging calls left in a unit: `console.log(...)` and its relatives, and the host's `node.warn(...)`,
`node.debug(...)` and `node.trace(...)`, which write to its debug view. Blanks may stand around the
dot and before the parenthesis. Only masked code is searched, so text in strings and comments never
counts.
-/

namespace FlowAudit.Rule

open FlowAudit.Text FlowAudit.Source

/-- A family of method calls that a unit should not ship with. -/
structure CallFamily where
  object : List Char
  methods : List (List Char)

/-- The logging methods of the console. -/
def consoleCalls : CallFamily where
  object := "console".toList
  methods := ["log", "info", "debug", "warn", "error", "trace", "dir", "table"].map String.toList

/-- The host's methods that write to its debug view. -/
def hostCalls : CallFamily where
  object := "node".toList
  methods := ["warn", "debug", "trace"].map String.toList

/-- The method called where the text begins with a call of the family. -/
def CallFamily.methodAt? (family : CallFamily) (text : List Char) : Option (List Char) := do
  let rest ← afterPrefix? family.object text
  let rest ← afterPrefix? ['.'] (trimStart rest)
  family.methods.find? fun method =>
    match afterPrefix? method (trimStart rest) with
    | some rest => (trimStart rest).head? == some '('
    | none => false

/-- The methods of the family that a line of code calls, in order. -/
def CallFamily.callsIn (family : CallFamily) (code : List Char) : List (List Char) :=
  findAll (fun before text => if startsWord before then family.methodAt? text else none) none code

/-- One issue for every console call. -/
def consoleLog (lines : List Line) : List Issue :=
  lines.flatMap fun line => (consoleCalls.callsIn line.code).map fun method =>
    .located .consoleLog line.number
      ("remove console." ++ String.ofList method ++ "() before deploying")

/-- One issue for every call that writes to the host's debug view. -/
def nodeWarn (lines : List Line) : List Issue :=
  lines.flatMap fun line => (hostCalls.callsIn line.code).map fun method =>
    .located .nodeWarn line.number ("node." ++ String.ofList method ++ "() left in function")

end FlowAudit.Rule
