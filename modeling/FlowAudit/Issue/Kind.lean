/-!
# FlowAudit.Issue.Kind

The catalog of what can be found in a unit of source: eight kinds of issue, each with its severity,
the lowest detection level that reports it, its tag and its headline. Everything that needs to know
about a kind asks here.
-/

namespace FlowAudit

/-- How bad an issue is, least first. -/
inductive Severity where
  | info
  | warning
  | critical
  deriving Repr, DecidableEq

namespace Severity

/-- The severities, least first. -/
def all : List Severity := [.info, .warning, .critical]

def name : Severity → String
  | info => "info"
  | warning => "warning"
  | critical => "critical"

/-- The place of a severity in the order from least to worst. -/
def rank : Severity → Nat
  | info => 0
  | warning => 1
  | critical => 2

/-- The worse of two severities. -/
def worse (a b : Severity) : Severity :=
  if a.rank < b.rank then b else a

end Severity

/-- How much of the catalog a scan reports. Each level reports all that the one before it does. -/
inductive Level where
  /-- Top-level returns only. -/
  | basic
  /-- Adds logging calls, debugger statements and markers. -/
  | standard
  /-- Adds unused bindings, placeholder values and runs of empty lines. -/
  | strict
  deriving Repr, DecidableEq

namespace Level

/-- The number a level is written as. -/
def number : Level → Nat
  | basic => 1
  | standard => 2
  | strict => 3

/-- The level with the given number; numbers out of range mean the nearest level. -/
def ofInt (n : Int) : Level :=
  if n ≤ 1 then basic else if n = 2 then standard else strict

end Level

/-- The kinds of issue, in catalog order. -/
inductive Kind where
  | topLevelReturn
  | consoleLog
  | nodeWarn
  | debuggerStatement
  | todoComment
  | unusedVariable
  | hardcodedTest
  | multipleEmptyLines
  deriving Repr, DecidableEq

namespace Kind

/-- The whole catalog, in its order. -/
def all : List Kind :=
  [topLevelReturn, consoleLog, nodeWarn, debuggerStatement, todoComment, unusedVariable,
    hardcodedTest, multipleEmptyLines]

/-- The place of a kind in the catalog. -/
def rank : Kind → Nat
  | topLevelReturn => 0
  | consoleLog => 1
  | nodeWarn => 2
  | debuggerStatement => 3
  | todoComment => 4
  | unusedVariable => 5
  | hardcodedTest => 6
  | multipleEmptyLines => 7

def severity : Kind → Severity
  | topLevelReturn | debuggerStatement => .critical
  | consoleLog | nodeWarn | todoComment => .warning
  | unusedVariable | hardcodedTest | multipleEmptyLines => .info

/-- The lowest level that reports the kind. -/
def minLevel : Kind → Level
  | topLevelReturn => .basic
  | consoleLog | nodeWarn | debuggerStatement | todoComment => .standard
  | unusedVariable | hardcodedTest | multipleEmptyLines => .strict

/-- Whether a scan at the given level reports the kind. -/
def enabledAt (kind : Kind) (level : Level) : Bool :=
  kind.minLevel.number ≤ level.number

/-- The name a kind is stored and shown under. -/
def tag : Kind → String
  | topLevelReturn => "top-level-return"
  | consoleLog => "console-log"
  | nodeWarn => "node-warn"
  | debuggerStatement => "debugger-statement"
  | todoComment => "todo-comment"
  | unusedVariable => "unused-variable"
  | hardcodedTest => "hardcoded-test"
  | multipleEmptyLines => "multiple-empty-lines"

/-- What every message about an issue of this kind begins with. -/
def headline : Kind → String
  | topLevelReturn => "Top-level return statement"
  | consoleLog => "Console logging call"
  | nodeWarn => "Debug/warn call"
  | debuggerStatement => "Debugger breakpoint"
  | todoComment => "TODO/FIXME marker"
  | unusedVariable => "Unused variable"
  | hardcodedTest => "Hardcoded test value"
  | multipleEmptyLines => "Multiple empty lines"

/-- The kind with the given tag. -/
def ofTag? (tag : String) : Option Kind :=
  all.find? (·.tag == tag)

/-- A tag leads back to its kind. -/
theorem ofTag?_tag (kind : Kind) : ofTag? kind.tag = some kind := by
  cases kind <;> decide

end Kind

end FlowAudit
