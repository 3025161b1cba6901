import FlowAudit.Issue.Basic
import FlowAudit.Rule.Word
import FlowAudit.Source.Line

/-!
# FlowAudit.Rule.Binding

Bindings that are never used. A `let`, `const` or `var` binding is reported when its name occurs at
most once among the identifiers of the whole unit, that is, nowhere but in its declaration. Property
names (`obj.name`) are no uses; names in template interpolations are. Destructuring patterns are
left alone, and a leading underscore marks a name as unused on purpose.

Declarations and identifiers are cut out of a line in two different ways: `declaredNames` takes runs
of word characters and dollar signs, `identifiers` runs of alphanumeric characters, underscores and
dollar signs.
-/

namespace FlowAudit.Rule

open FlowAudit.Text FlowAudit.Source

/-- A character of an identifier. -/
def isIdentChar (c : Char) : Bool :=
  isAlphanumeric c || c == '_' || c == '$'

/-- The words that open a declaration. -/
def declarators : List (List Char) := ["let", "const", "var"].map String.toList

/-- A character that a declared name may begin with. -/
def startsName (c : Char) : Bool :=
  isAsciiLetter c || c == '_' || c == '$'

/-- The name declared where the text begins with a declaration, and how far into the text the name
ends. -/
def declarationAt? (text : List Char) : Option (List Char × Nat) :=
  declarators.findSome? fun word =>
    match afterPrefix? word text with
    | none => none
    | some rest =>
      let afterBlanks := trimStart rest
      match afterBlanks with
      | c :: _ =>
        if afterBlanks.length < rest.length && startsName c then
          let name := afterBlanks.takeWhile isWordOrDollar
          some (name, text.length - afterBlanks.length + name.length)
        else none
      | [] => none

/-- The names a line of code declares, in order. Reading goes on after a declared name, so the name
itself opens no further declaration; `skip` counts the characters still to be passed over. -/
def declaredFrom (skip : Nat) (before : Option Char) : List Char → List (List Char)
  | [] => []
  | c :: rest =>
    match skip with
    | n + 1 => declaredFrom n (some c) rest
    | 0 =>
      match if startsFree before then declarationAt? (c :: rest) else none with
      | some (name, length) => name :: declaredFrom (length - 1) (some c) rest
      | none => declaredFrom 0 (some c) rest

/-- The names a line of code declares, in order. -/
def declaredNames (code : List Char) : List (List Char) :=
  declaredFrom 0 none code

/-- What reading the identifiers of a line keeps in mind. -/
structure IdentScan where
  /-- The identifier being read, last character first. -/
  token : List Char := []
  /-- The last character before the identifier that is no blank. -/
  last : Option Char := none
  /-- The one before that. An identifier counts as one character here. -/
  secondLast : Option Char := none
  /-- The identifiers read so far, last one first. -/
  found : List (List Char) := []

namespace IdentScan

/-- Finish the identifier being read, if there is one. It is a property when a single dot stands
before it, and a number when it begins with a digit; neither is kept. -/
def flush (s : IdentScan) : IdentScan :=
  match s.token, s.token.getLast? with
  | end_ :: _, some first =>
    let isProperty := s.last == some '.' && s.secondLast != some '.'
    { token := []
      last := some end_
      secondLast := s.last
      found := if isProperty || isAsciiDigit first then s.found else s.token.reverse :: s.found }
  | _, _ => s

/-- Read one character. -/
def step (s : IdentScan) (c : Char) : IdentScan :=
  if isIdentChar c then { s with token := c :: s.token }
  else
    let s := s.flush
    if isBlank c then s else { s with last := some c, secondLast := s.last }

end IdentScan

/-- The identifiers of a line of code, in order, property names left out. -/
def identifiers (code : List Char) : List (List Char) :=
  (code.foldl IdentScan.step {}).flush.found.reverse

/-- One issue for every declared name that the unit never uses. -/
def unusedVariable (lines : List Line) : List Issue :=
  let uses := lines.flatMap fun line => identifiers line.code
  lines.flatMap fun line => (declaredNames line.code).filterMap fun name =>
    if name.head? == some '_' then none
    else if uses.count name ≤ 1 then
      some (.located .unusedVariable line.number
        ("'" ++ String.ofList name ++ "' is declared but never used"))
    else none

end FlowAudit.Rule
