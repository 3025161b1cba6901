import FlowAudit.Issue.Basic
import FlowAudit.Rule.Binding

/-!
# FlowAudit.Rule.BareReturn

A `return` without a value at the outermost scope of a unit: nothing after it ever runs. Returns
inside braces, returns with a value and returns that are the body of a control header without braces
are left alone. A body may stand on the line after its header, so the rule follows control headers
from line to line (`HeaderState`).
-/

namespace FlowAudit.Rule

open FlowAudit.Text FlowAudit.Source

/-- The text after a keyword that it begins with as a whole word. -/
def afterKeyword? (keyword text : List Char) : Option (List Char) :=
  (afterPrefix? keyword text).filter fun rest => !rest.head?.any isIdentChar

/-- Opening minus closing parentheses. It is no greater than the number of characters
(`natAbs_parenBalance_le`); sources are taken to have less than 2^31 parentheses, so that the balance of any
of their lines fits into a word of thirty-two bits with a sign. -/
def parenBalance (code : List Char) : Int :=
  code.foldl (fun balance c =>
    if c = '(' then balance + 1 else if c = ')' then balance - 1 else balance) 0

/-- What the lines so far say about the statement that comes next. -/
structure HeaderState where
  /-- The open parentheses of a header's condition that goes on, if one does. -/
  openCondition : Option Int := none
  /-- Whether the next statement is the body of a header. -/
  pending : Bool := false
  deriving Repr, DecidableEq

namespace HeaderState

/-- The keywords of headers with a condition in parentheses. -/
def conditionKeywords : List (List Char) := ["if", "for", "while"].map String.toList

/-- Whether a text begins with a header that has a condition. -/
def isHeader (text : List Char) : Bool :=
  conditionKeywords.any fun keyword =>
    (afterKeyword? keyword text).any fun rest => (trimStart rest).head? == some '('

/-- The state when a condition with the given balance has been read up to the end of `code`. -/
def ofBalance (balance : Int) (code : List Char) : HeaderState :=
  if balance > 0 then { openCondition := some balance }
  else { pending := code.getLast? == some ')' }

/-- The state after a statement line that continues no condition. -/
def ofStatement (code : List Char) : HeaderState :=
  let code := trimStart (code.dropWhile (· == '}'))
  let afterElse? := (afterKeyword? "else".toList code).map trimStart
  if afterElse? == some [] then { pending := true }
  else
    let code := afterElse?.getD code
    if (afterKeyword? "do".toList code).any allBlank then { pending := true }
    else if isHeader code then ofBalance (parenBalance code) code
    else {}

/-- The state after one more line of code that is not blank. -/
def advance (s : HeaderState) (code : List Char) : HeaderState :=
  let code := trim code
  match s.openCondition with
  | some balance => ofBalance (balance + parenBalance code) code
  | none => ofStatement code

end HeaderState

/-- How much text a bare return takes, if the text begins with one, and how much of it comes before
the word itself. Blanks, the word, blanks, then a semicolon, a closing brace or the end. -/
def bareReturnAt? (text : List Char) : Option (Nat × Nat) :=
  let afterBlanks := trimStart text
  match afterPrefix? "return".toList afterBlanks with
  | none => none
  | some rest =>
    let lead := text.length - afterBlanks.length
    match trimStart rest with
    | [] => some (text.length, lead)
    | c :: after => if c = ';' || c = '}' then some (text.length - after.length, lead) else none

/-- A character after which a statement begins. -/
def opensStatement (c : Char) : Bool :=
  c == ';' || c == '{' || c == '}'

/-- The offsets of the bare returns of a line that follow a semicolon or a brace. Reading goes on
after the semicolon or brace that ends a return, so one character never does both; `skip` counts the
characters still to be passed over, and `offset` those before. -/
def bareReturnsFrom (skip offset : Nat) : List Char → List Nat
  | [] => []
  | c :: rest =>
    match skip with
    | n + 1 => bareReturnsFrom n (offset + 1) rest
    | 0 =>
      match if opensStatement c then bareReturnAt? rest else none with
      | some (length, lead) => (offset + 1 + lead) :: bareReturnsFrom length (offset + 1) rest
      | none => bareReturnsFrom 0 (offset + 1) rest

/-- The offsets of the bare returns of a line of code, in order. The first may open the line. -/
def bareReturns (code : List Char) : List Nat :=
  match bareReturnAt? code with
  | some (length, lead) => lead :: bareReturnsFrom length 0 code
  | none => bareReturnsFrom 0 0 code

/-- Whether the bare return at an offset is one to report: it is at depth zero, and it is not the
body of a header on a line before. -/
def reportsReturn (state : HeaderState) (line : Line) (offset : Nat) : Bool :=
  let before := line.code.take offset
  !(allBlank before && state.pending) && depthAfter line.depth before == 0

/-- The reported lines, read one after the other. Lines without code change nothing. -/
def topLevelReturns (state : HeaderState) : List Line → List Line
  | [] => []
  | line :: rest =>
    if allBlank line.code then topLevelReturns state rest
    else
      let later := topLevelReturns (state.advance line.code) rest
      if (bareReturns line.code).any (reportsReturn state line) then line :: later else later

/-- One issue for every line with a bare return at the outermost scope. -/
def topLevelReturn (lines : List Line) : List Issue :=
  (topLevelReturns {} lines).map fun line =>
    .located .topLevelReturn line.number "remove this return, the code after it never runs"

end FlowAudit.Rule
