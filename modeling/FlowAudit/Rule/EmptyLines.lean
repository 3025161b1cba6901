import FlowAudit.Issue.Basic
import FlowAudit.Source.Line

/-!
# FlowAudit.Rule.EmptyLines

Runs of empty lines. Every longest run of at least two blank lines gives one issue, at its first
line.
-/

namespace FlowAudit.Rule

open FlowAudit.Source

/-- The shortest run of blank lines that is reported. -/
def shortestRun : Nat := 2

/-- A run of blank lines: the number of its first line, and its length. -/
structure BlankRun where
  start : Nat
  length : Nat
  deriving Repr, DecidableEq

/-- The run that `line` adds to or begins. -/
def BlankRun.extend (open_ : Option BlankRun) (line : Line) : BlankRun :=
  match open_ with
  | some run => { run with length := run.length + 1 }
  | none => { start := line.number, length := 1 }

/-- The longest runs of blank lines, in order; `open_` is the run that ends just before. -/
def blankRuns (open_ : Option BlankRun) : List Line → List BlankRun
  | [] => open_.toList
  | line :: rest =>
    if line.isBlank then blankRuns (some (BlankRun.extend open_ line)) rest
    else open_.toList ++ blankRuns none rest

/-- One issue for every long enough run of blank lines. -/
def multipleEmptyLines (lines : List Line) : List Issue :=
  ((blankRuns none lines).filter fun run => shortestRun ≤ run.length).map fun run =>
    .located .multipleEmptyLines run.start (toString run.length ++ " consecutive empty lines")

end FlowAudit.Rule
