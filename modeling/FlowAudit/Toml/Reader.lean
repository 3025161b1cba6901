import FlowAudit.Toml.Lexeme
import FlowAudit.Toml.Table

/-!
# FlowAudit.Toml.Reader

Reading TOML documents. `parse?` gives the table that a document is, or nothing when it is not TOML.
-/

namespace FlowAudit.Toml

open FlowAudit.Text FlowAudit.Text.Reader

/-- Pass over blanks, line breaks and comments; each round passes over at least one character. -/
def filler : Nat → Reader Unit
  | 0 => return ()
  | rounds + 1 => do
    blanks
    if ← lineBreak? then filler rounds
    else if (← peek) == some '#' then
      comment
      filler rounds

mutual

/-- A value that may be nested to a depth. -/
def value : Nat → Nat → Reader Value
  | 0, _ => failure
  | fuel + 1, depth => do
    match ← peek with
    | none => failure
    | some c =>
      if c = '"' || c = '\'' then return .string (String.ofList (← stringIn c))
      else if c = '[' then
        guard (0 < depth)
        character '['
        return .array (← items fuel (depth - 1))
      else if c = '{' then
        guard (0 < depth)
        character '{'
        blanks
        if ← accept ['}'] then return .table []
        inlineTable? (← settings fuel (depth - 1))
      else if ← accept "true".toList then return .bool true
      else if ← accept "false".toList then return .bool false
      else numberOrDate

/-- The items of an array and its closing bracket. A comma may stand after the last one. -/
def items : Nat → Nat → Reader (List Value)
  | 0, _ => failure
  | fuel + 1, depth => do
    filler (← get).length
    if ← accept [']'] then return []
    let item ← value fuel depth
    filler (← get).length
    if ← accept [','] then return item :: (← items fuel depth)
    character ']'
    return [item]

/-- The settings of a table between braces and its closing brace. No comma stands after the last
one. -/
def settings : Nat → Nat → Reader (List Setting)
  | 0, _ => failure
  | fuel + 1, depth => do
    let (path, key) ← key
    character '='
    blanks
    let value ← value fuel depth
    blanks
    let setting : Setting := { path, key, value }
    if ← accept [','] then return setting :: (← settings fuel depth)
    character '}'
    return [setting]

end

/-- A line that sets a key. -/
def settingLine : Reader Setting := do
  let (path, key) ← key
  character '='
  blanks
  let value ← value (2 * (← get).length + 2) deepestNesting
  restOfLine
  return { path, key, value }

/-- The settings up to the next header or the end; each round takes at least one character. -/
def settingLines : Nat → Reader (List Setting)
  | 0 => failure
  | rounds + 1 => do
    blanks
    match ← peek with
    | none | some '[' => return []
    | some '#' => restOfLine; settingLines rounds
    | some _ =>
      if ← lineBreak? then settingLines rounds
      else
        let setting ← settingLine
        return setting :: (← settingLines rounds)

/-- A section with its header. -/
def sectionAfterHeader : Reader Section := do
  character '['
  let repeats ← accept ['[']
  let (path, key) ← key
  exactly (if repeats then [']', ']'] else [']'])
  restOfLine
  return { path, key, repeats, settings := ← settingLines ((← get).length + 1) }

/-- The sections up to the end. -/
def sections : Nat → Reader (List Section)
  | 0 => failure
  | rounds + 1 => do
    match ← peek with
    | none => return []
    | some _ =>
      let part ← sectionAfterHeader
      return part :: (← sections rounds)

/-- A whole document. A byte order mark may stand first. -/
def document : Reader (List (String × Value)) := do
  let _ ← accept ['\ufeff']
  let first ← settingLines ((← get).length + 1)
  document? first (← sections ((← get).length + 1))

/-- The table that a text is. -/
def parse? (text : String) : Option (List (String × Value)) :=
  (document.run text.toList).map (·.1)

end FlowAudit.Toml
