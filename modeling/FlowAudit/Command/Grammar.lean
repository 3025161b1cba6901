import FlowAudit.Command.Usage

/-!
# FlowAudit.Command.Grammar

Reading the words of a command line. A word is the long name of a parameter after two dashes, letters
of parameters after one, two dashes alone, which make all later words plain, or a plain word.

A value may be attached to its parameter or be the next word. In the second case it is put into its
place only when something else needs the place to be settled, so of two mistakes on a line the one
that is met first in this order counts. What a grammar collects its values in is a draft `δ`; putting
a value into it checks the value.
-/

namespace FlowAudit.Command

/-- A parameter of a command line, by name or by position. -/
structure Parameter (δ : Type) where
  name : String
  letter : Option Char := none
  takesValue : Bool := true
  /-- Put a value into a draft. -/
  put : String → δ → Except UsageError δ

namespace Parameter

variable {α δ ε : Type}

/-- Read a text as a value. -/
abbrev ValueReader (α : Type) := String → Except UsageError α

/-- A parameter with a value that can be given once. `get` and `set` say where in a draft. -/
def valued (name : String) (letter : Option Char) (read : ValueReader α) (get : δ → Option α)
    (set : α → δ → δ) : Parameter δ where
  name
  letter
  put text draft := do
    if (get draft).isSome then throw (.repeated name)
    return set (← read text) draft

/-- A parameter without a value that can be given once. -/
def flag (name : String) (get : δ → Bool) (set : δ → δ) : Parameter δ where
  name
  takesValue := false
  put _ draft := if get draft then .error (.repeated name) else .ok (set draft)

/-- A parameter that ends the reading of the line. -/
def question (name : String) (letter : Char) (answer : UsageError) : Parameter δ where
  name
  letter := some letter
  takesValue := false
  put _ _ := .error answer

/-- A parameter of the first part of a draft. -/
def first (p : Parameter δ) : Parameter (δ × ε) where
  name := p.name
  letter := p.letter
  takesValue := p.takesValue
  put text draft := (p.put text draft.1).map fun part => (part, draft.2)

/-- A parameter of the second part of a draft. -/
def second (p : Parameter ε) : Parameter (δ × ε) where
  name := p.name
  letter := p.letter
  takesValue := p.takesValue
  put text draft := (p.put text draft.2).map fun part => (draft.1, part)

end Parameter

/-- A word of a command line. -/
inductive Word where
  /-- Two dashes alone. -/
  | separator
  /-- A long name, perhaps with a value attached to it. -/
  | long (name : String) (value : Option String)
  /-- Letters of parameters; the last one may have a value attached to it. -/
  | letters (letters : List Char)
  | plain
  deriving Repr, DecidableEq

/-- What kind of word a text is. A dash alone is a plain one. -/
def Word.ofText (text : String) : Word :=
  match text.toList with
  | ['-', '-'] => .separator
  | '-' :: '-' :: rest =>
    match rest.dropWhile (· ≠ '=') with
    | [] => .long (String.ofList rest) none
    | _ :: value => .long (String.ofList (rest.takeWhile (· ≠ '='))) (some (String.ofList value))
  | '-' :: letter :: rest => .letters (letter :: rest)
  | _ => .plain

/-- A parameter that was named last, and may still have to be put into its place. -/
inductive Held (δ : Type) where
  | nothing
  /-- The value of the parameter is to be the next word. -/
  | awaiting (parameter : Parameter δ)
  | complete (parameter : Parameter δ) (value : String)

/-- The state of reading a line. -/
structure Progress (δ : Type) where
  draft : δ
  held : Held δ := .nothing
  /-- The parameters by position that are still to come. -/
  positions : List (Parameter δ)
  /-- Whether all words are plain from here on. -/
  plainOnly : Bool := false

namespace Progress

variable {δ : Type}

/-- Put what is held into its place. -/
def settle (s : Progress δ) : Except UsageError (Progress δ) :=
  match s.held with
  | .nothing => .ok s
  | .awaiting p => .error (.missingValue p.name)
  | .complete p value => (p.put value s.draft).map fun draft => { s with draft, held := .nothing }

/-- Give a parameter a value at once. -/
def give (s : Progress δ) (p : Parameter δ) (value : String) : Except UsageError (Progress δ) := do
  let s ← s.settle
  return { s with draft := ← p.put value s.draft }

/-- Wait for the value of a parameter. -/
def await (s : Progress δ) (p : Parameter δ) : Except UsageError (Progress δ) := do
  return { ← s.settle with held := .awaiting p }

end Progress

/-- The grammar of a command line, or of that part of it which belongs to one command. -/
structure Grammar (δ : Type) where
  parameters : List (Parameter δ)
  positions : List (Parameter δ) := []
  /-- The names of the commands, one of which ends this part of the line. -/
  commands : List String := []

namespace Grammar

variable {δ : Type}

/-- Read a word that names a parameter in full. -/
def takeLong (grammar : Grammar δ) (s : Progress δ) (name : String) (value : Option String) :
    Except UsageError (Progress δ) :=
  match grammar.parameters.find? (·.name = name) with
  | none => .error (.unknownArgument ("--" ++ name))
  | some p =>
    match p.takesValue, value with
    | true, none => s.await p
    | true, some text => s.give p text
    | false, none => s.give p ""
    | false, some _ => .error (.needlessValue name)

/-- Read a word of letters. The first one that takes a value has the rest of the word for it, less an
equals sign. -/
def takeLetters (grammar : Grammar δ) : List Char → Progress δ → Except UsageError (Progress δ)
  | [], s => .ok s
  | letter :: rest, s =>
    match grammar.parameters.find? (·.letter = some letter) with
    | none => .error (.unknownArgument (String.ofList ['-', letter]))
    | some p =>
      if p.takesValue then
        match rest with
        | [] => s.await p
        | '=' :: value => s.give p (String.ofList value)
        | value => s.give p (String.ofList value)
      else do takeLetters grammar rest (← s.give p "")

/-- What to say of a plain word that has no place. -/
def misplaced (grammar : Grammar δ) (s : Progress δ) (text : String) : UsageError :=
  if grammar.commands.isEmpty || s.plainOnly && grammar.commands.contains text then
    .unknownArgument text
  else .unknownCommand text

/-- Read a plain word. -/
def takePlain (grammar : Grammar δ) (s : Progress δ) (text : String) :
    Except UsageError (Progress δ) :=
  match s.positions with
  | [] => .error (grammar.misplaced s text)
  | p :: positions => do
    return { ← s.settle with held := .complete p text, positions }

/-- Read one word. -/
def take (grammar : Grammar δ) (s : Progress δ) (text : String) :
    Except UsageError (Progress δ) :=
  if s.plainOnly then grammar.takePlain s text
  else
    match Word.ofText text with
    | .separator => .ok { s with plainOnly := true }
    | .long name value => grammar.takeLong s name value
    | .letters letters => grammar.takeLetters letters s
    | .plain =>
      match s.held with
      | .awaiting p => .ok { s with held := .complete p text }
      | _ => grammar.takePlain s text

/-- Whether a word ends this part of the line. -/
def endsAt (grammar : Grammar δ) (s : Progress δ) (text : String) : Bool :=
  match s.held with
  | .awaiting _ => false
  | _ => !s.plainOnly && grammar.commands.contains text

/-- Read words up to the name of a command. What is left begins with that name. -/
def read (grammar : Grammar δ) (s : Progress δ) :
    List String → Except UsageError (Progress δ × List String)
  | [] => .ok (s, [])
  | text :: rest =>
    if grammar.endsAt s text then .ok (s, text :: rest)
    else do grammar.read (← grammar.take s text) rest

/-- Read words from the beginning. -/
def readFrom (grammar : Grammar δ) (draft : δ) (words : List String) :
    Except UsageError (Progress δ × List String) :=
  grammar.read { draft, positions := grammar.positions } words

end Grammar

end FlowAudit.Command
