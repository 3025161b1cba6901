import FlowAudit.Source.Line
import FlowAudit.Source.RegexLiteral

/-!
# FlowAudit.Source.Mask

Masking of script source. `maskSource` splits a source into lines and separates each into code,
comment text and literal contents. It reads one character at a time: `step` is the transition of a
machine whose state between characters is `Carry` (what outlives a line) and `Found` (what the
current line has given so far), and `endLine` is what happens at the end of a line. Malformed
source (an unterminated string, comment or template) is no error; it simply runs to the end of its
line or of the text.

Only the character after the current one is ever looked at, except for regular expression literals,
which are skipped as a whole.
-/

namespace FlowAudit.Source

open FlowAudit.Text

/-- What the text at a position belongs to. -/
inductive Mode where
  | code
  | blockComment
  /-- A plain string with the quote that opened it. -/
  | quoted (quote : Char)
  | template
  deriving Repr, DecidableEq

/-- What is carried from character to character and from line to line. -/
structure Carry where
  mode : Mode := .code
  /-- Braces open in code outside template literals. -/
  depth : Nat := 0
  /-- The open `${` interpolations, innermost first, each with the braces open inside it. -/
  interpolations : List Nat := []
  /-- The contents of the literals being read, last character first. -/
  literal : List Char := []
  deriving Repr, DecidableEq

/-- What a line has given so far; texts are kept last character first. -/
structure Found where
  code : List Char := []
  comment : List Char := []
  literals : List (List Char) := []
  deriving Repr, DecidableEq

/-- The state of the machine between two characters. -/
structure Scan where
  carry : Carry
  found : Found := {}
  /-- How many of the next characters are already accounted for. -/
  skip : Nat := 0
  deriving Repr, DecidableEq

namespace Scan

/-- Add a character of code. -/
def pushCode (s : Scan) (c : Char) : Scan :=
  { s with found := { s.found with code := c :: s.found.code } }

/-- Add a character of comment text. -/
def pushComment (s : Scan) (c : Char) : Scan :=
  { s with found := { s.found with comment := c :: s.found.comment } }

/-- Add a character to the literal being read. -/
def pushLiteral (s : Scan) (c : Char) : Scan :=
  { s with carry := { s.carry with literal := c :: s.carry.literal } }

/-- Record the literal being read as ending on this line. -/
def closeLiteral (s : Scan) : Scan :=
  { s with
    carry := { s.carry with literal := [] }
    found := { s.found with literals := s.carry.literal.reverse :: s.found.literals } }

/-- Go on in another mode. -/
def enter (s : Scan) (mode : Mode) : Scan :=
  { s with carry := { s.carry with mode } }

/-- Leave out the next `count` characters. -/
def skipping (s : Scan) (count : Nat) : Scan :=
  { s with skip := count }

/-- An opening brace in code, counted by the innermost interpolation if there is one. -/
def openBrace (s : Scan) : Scan :=
  let carry := match s.carry.interpolations with
    | inner :: outer => { s.carry with interpolations := (inner + 1) :: outer }
    | [] => { s.carry with depth := s.carry.depth + 1 }
  { s with carry }.pushCode '{'

/-- A closing brace in code. One that matches a `${` leads back into the template and leaves a blank
in the code. -/
def closeBrace (s : Scan) : Scan :=
  match s.carry.interpolations with
  | 0 :: outer =>
    { s with carry := { s.carry with mode := .template, interpolations := outer } }.pushCode ' '
  | (inner + 1) :: outer =>
    { s with carry := { s.carry with interpolations := inner :: outer } }.pushCode '}'
  | [] => { s with carry := { s.carry with depth := s.carry.depth - 1 } }.pushCode '}'

/-- A character in code; `rest` is the line after it. -/
def codeStep (s : Scan) (c : Char) (rest : List Char) : Scan :=
  if c = '/' then
    match rest with
    | '/' :: comment =>
      { s with found := { s.found with comment := comment.reverse ++ s.found.comment } }.skipping
        rest.length
    | '*' :: _ => (s.enter .blockComment).skipping 1
    | _ =>
      if opensRegex s.found.code then
        ((s.pushCode '/').pushCode '.').pushCode '/' |>.skipping (regexLength rest)
      else s.pushCode c
  else if c = '\'' || c = '"' then (s.enter (.quoted c)).pushCode c
  else if c = '`' then (s.enter .template).pushCode c
  else if c = '{' then s.openBrace
  else if c = '}' then s.closeBrace
  else s.pushCode c

/-- A slash that begins no comment opens a regular expression or divides. -/
theorem codeStep_slash (s : Scan) {rest : List Char} (line : rest.head? ≠ some '/')
    (block : rest.head? ≠ some '*') :
    s.codeStep '/' rest =
      if opensRegex s.found.code then
        (((s.pushCode '/').pushCode '.').pushCode '/').skipping (regexLength rest)
      else s.pushCode '/' := by
  unfold codeStep
  rw [if_pos rfl]
  split
  · exact absurd rfl line
  · exact absurd rfl block
  · rfl

/-- A character in a block comment. -/
def commentStep (s : Scan) (c : Char) (rest : List Char) : Scan :=
  if c = '*' && rest.head? == some '/' then ((s.enter .code).pushCode ' ').skipping 1
  else s.pushComment c

/-- A backslash in a literal: the next character, if the line has one, is taken as it is. -/
def escapeStep (s : Scan) (rest : List Char) : Scan :=
  match rest with
  | escaped :: _ => (s.pushLiteral escaped).skipping 1
  | [] => s

/-- A character in a plain string. -/
def quotedStep (s : Scan) (quote c : Char) (rest : List Char) : Scan :=
  if c = '\\' then s.escapeStep rest
  else if c = quote then ((s.enter .code).pushCode c).closeLiteral
  else s.pushLiteral c

/-- A character in the text of a template. -/
def templateStep (s : Scan) (c : Char) (rest : List Char) : Scan :=
  if c = '\\' then s.escapeStep rest
  else if c = '`' then ((s.enter .code).pushCode c).closeLiteral
  else if c = '$' && rest.head? == some '{' then
    let carry := { s.carry with mode := .code, interpolations := 0 :: s.carry.interpolations }
    ({ s with carry }.pushCode ' ').skipping 1
  else s.pushLiteral c

/-- The state after one character; `rest` is the line after it. -/
def step (s : Scan) (c : Char) (rest : List Char) : Scan :=
  match s.skip with
  | n + 1 => { s with skip := n }
  | 0 =>
    match s.carry.mode with
    | .code => s.codeStep c rest
    | .blockComment => s.commentStep c rest
    | .quoted quote => s.quotedStep quote c rest
    | .template => s.templateStep c rest

/-- The state after all the given characters. -/
def run (s : Scan) : List Char → Scan
  | [] => s
  | c :: rest => (s.step c rest).run rest

/-- The end of a line. A plain string cannot go on to the next line, so it ends here; templates and
block comments take the line break into their text. -/
def endLine (s : Scan) : Scan :=
  match s.carry.mode with
  | .code => s
  | .quoted _ => (s.enter .code).closeLiteral
  | .template => s.pushLiteral '\n'
  | .blockComment => s.pushComment '\n'

end Scan

/-- Mask one line: the line, and what it leaves to the next one. -/
def maskLine (carry : Carry) (number : Nat) (raw : List Char) : Line × Carry :=
  let s := (Scan.run { carry } raw).endLine
  ({ number
     raw
     code := s.found.code.reverse
     comment := s.found.comment.reverse
     literals := s.found.literals.reverse
     depth := carry.depth }, s.carry)

/-- Mask lines one after the other; `number` is the number of the first. -/
def maskLines (carry : Carry) (number : Nat) : List (List Char) → List Line
  | [] => []
  | raw :: rest =>
    let (line, next) := maskLine carry number raw
    line :: maskLines next (number + 1) rest

/-- The pieces of a text between its line feeds; a text without any is one piece. -/
def splitAtNewlines : List Char → List (List Char)
  | [] => [[]]
  | c :: rest =>
    if c = '\n' then [] :: splitAtNewlines rest
    else
      match splitAtNewlines rest with
      | piece :: pieces => (c :: piece) :: pieces
      | [] => [[c]]

/-- The text without one occurrence of `c` at its end. -/
def dropFinal (c : Char) (text : List Char) : List Char :=
  if text.getLast? = some c then text.dropLast else text

/-- The lines of a source. A line feed at the very end closes the last line and opens no new one,
and a carriage return before a line feed belongs to the line ending. -/
def rawLines (source : List Char) : List (List Char) :=
  if source.isEmpty then [] else (splitAtNewlines (dropFinal '\n' source)).map (dropFinal '\r')

/-- Mask a source. -/
def maskSource (source : List Char) : List Line :=
  maskLines {} 1 (rawLines source)

/-- The number of lines of a source as an editor counts them: one more than its line feeds. -/
def lineCount (source : List Char) : Nat :=
  source.count '\n' + 1

end FlowAudit.Source
