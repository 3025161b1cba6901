import FlowAudit.Number.Numeral
import FlowAudit.Number.Word
import FlowAudit.Text.Reader
import FlowAudit.Time.Civil
import FlowAudit.Toml.Value

/-!
# FlowAudit.Toml.Lexeme

The smallest parts of a TOML document: blanks, comments, keys, strings, numbers, dates and times.

Readers here never go back over what they have taken: whether a text is, say, a date or a number is
decided from its first characters, and what begins as the one is not tried as the other.
-/

namespace FlowAudit.Toml

open FlowAudit.Number FlowAudit.Text FlowAudit.Text.Reader

def isTomlBlank (c : Char) : Bool :=
  c == ' ' || c == '\t'

/-- The controls that may stand nowhere in a document: all but tabs and line breaks. -/
def isControl (c : Char) : Bool :=
  (c < ' ' && c != '\t') || c == '\x7f'

/-- Pass over blanks. -/
def blanks : Reader Unit :=
  skipWhile isTomlBlank

/-- Pass over one line break, if there is one; whether there is. -/
def lineBreak? : Reader Bool := do
  if ← accept ['\n'] then return true else accept ['\r', '\n']

/-- Pass over a comment, if there is one. -/
def comment : Reader Unit := do
  if ← accept ['#'] then skipWhile fun c => !isControl c

/-- Pass over the rest of a line that says nothing more. -/
def restOfLine : Reader Unit := do
  blanks
  comment
  if !(← lineBreak?) then guard (← peek).isNone

/-! ### Strings -/

/-- The character that a letter after a backslash stands for. -/
def escapeOf? : Char → Option Char
  | 'b' => some '\x08'
  | 't' => some '\t'
  | 'n' => some '\n'
  | 'f' => some '\x0c'
  | 'r' => some '\r'
  | '"' => some '"'
  | '\\' => some '\\'
  | _ => none

/-- The character with the code point that some hexadecimal digits give. -/
def codePoint (digits : Nat) : Reader Char := do
  let found ← takeExactly digits fun c => (hexValue? c).isSome
  let n := found.foldl (fun n c => 16 * n + (hexValue? c).getD 0) 0
  guard n.isValidChar
  return Char.ofNat n

/-- The character that an escape after its backslash stands for. -/
def escaped : Reader Char := do
  match ← get with
  | 'u' :: rest => set rest; codePoint 4
  | 'U' :: rest => set rest; codePoint 8
  | c :: rest => set rest; escapeOf? c
  | [] => failure

/-- The rest of a string in quotes. -/
def basicRest : Nat → Reader (List Char)
  | 0 => failure
  | fuel + 1 => do
    match ← get with
    | '"' :: rest => set rest; return []
    | '\\' :: rest =>
      set rest
      let c ← escaped
      return c :: (← basicRest fuel)
    | c :: rest =>
      guard (!isControl c)
      set rest
      return c :: (← basicRest fuel)
    | [] => failure

/-- The rest of a string in apostrophes. -/
def literalRest : Reader (List Char) := do
  let found ← takeWhile fun c => c != '\'' && !isControl c
  character '\''
  return found

/-- The text after the blanks and line breaks it begins with. -/
def dropBlankLines : List Char → List Char
  | '\r' :: '\n' :: rest => dropBlankLines rest
  | c :: rest => if isTomlBlank c || c == '\n' then dropBlankLines rest else c :: rest
  | [] => []

/-- Pass over the break of a line that a backslash ends, with all blanks and line breaks after it. -/
def continuation? : Reader Bool := fun text =>
  match (do blanks; lineBreak?).run text with
  | some (true, rest) => some (true, dropBlankLines rest)
  | _ => some (false, text)

/-- A run of the mark that a string in three marks ends with. Fewer than three belong to the string;
of more, up to two belong to it and the last three end it. The result tells whether they do. -/
def marks (mark : Char) : Reader (List Char × Bool) := fun text =>
  let run := min (text.takeWhile (· == mark)).length 5
  let kept := if run < 3 then run else run - 3
  some ((List.replicate kept mark, 3 ≤ run), text.drop run)

/-- The rest of a string in three marks. Only in quotes has a backslash a meaning. -/
def longRest (mark : Char) : Nat → Reader (List Char)
  | 0 => failure
  | fuel + 1 => do
    if ← lineBreak? then return '\n' :: (← longRest mark fuel)
    match ← get with
    | [] => failure
    | c :: rest =>
      if c = mark then
        let (kept, ended) ← marks mark
        if ended then return kept else return kept ++ (← longRest mark fuel)
      else if c = '\\' && mark = '"' then
        set rest
        if ← continuation? then longRest mark fuel
        else
          let c ← escaped
          return c :: (← longRest mark fuel)
      else
        guard (!isControl c)
        set rest
        return c :: (← longRest mark fuel)

/-- A string in three marks after the first three. A line break right after them does not count. -/
def longString (mark : Char) : Reader (List Char) := do
  let _ ← lineBreak?
  longRest mark ((← get).length + 1)

/-- A string on one line, after its first mark. -/
def shortString (mark : Char) : Reader (List Char) := do
  if mark = '"' then basicRest ((← get).length + 1) else literalRest

/-- A string with the given mark. -/
def stringIn (mark : Char) : Reader (List Char) := do
  if ← accept (List.replicate 3 mark) then longString mark
  else
    character mark
    shortString mark

/-! ### Keys -/

/-- A character of a key without quotes. -/
def isKeyChar (c : Char) : Bool :=
  isAsciiLetter c || isAsciiDigit c || c == '_' || c == '-'

/-- One part of a key. -/
def keyPart : Reader String := do
  match ← get with
  | c :: rest =>
    if c = '"' || c = '\'' then
      set rest
      return String.ofList (← shortString c)
    else return String.ofList (← takeSome isKeyChar)
  | [] => failure

/-- The most parts that a key may have, and the deepest that values may be nested. -/
def deepestNesting : Nat := 79

/-- The parts of a key, with points between them. -/
def keyParts : Nat → Reader (List String)
  | 0 => failure
  | more + 1 => do
    blanks
    let part ← keyPart
    blanks
    if ← accept ['.'] then return part :: (← keyParts more) else return [part]

/-- A key: the parts before the last point, and the last one. -/
def key : Reader (List String × String) := do
  let parts ← keyParts deepestNesting
  return (parts.dropLast, parts.getLast?.getD "")

/-! ### Numbers -/

/-- Digits, with single underscores between them. -/
def digitsWith (isDigit : Char → Bool) : List Char → Option (List Char × List Char)
  | c :: '_' :: d :: rest =>
    if !isDigit c then none
    else if !isDigit d then none
    else (digitsWith isDigit (d :: rest)).map fun (found, rest) => (c :: found, rest)
  | '_' :: _ => none
  | [c] => if isDigit c then some ([c], []) else none
  | c :: d :: rest =>
    if !isDigit c then none
    else if d = '_' then none
    else if isDigit d then
      (digitsWith isDigit (d :: rest)).map fun (found, rest) => (c :: found, rest)
    else some ([c], d :: rest)
  | [] => none

/-- Digits of a decimal number, with single underscores between them. -/
def decimalDigits : Reader (List Char) := digitsWith isAsciiDigit

/-- The whole part of a number: no zero stands before other digits. -/
def wholePart : Reader (List Char) := do
  match ← get with
  | '0' :: rest => set rest; return ['0']
  | _ => decimalDigits

/-- An integer in a base that is a power of two, after its mark. -/
def intIn (base : Nat) : Reader Value := do
  let digits ← digitsWith fun c => (hexValue? c).any (· < base)
  let n := digits.foldl (fun n c => base * n + (hexValue? c).getD 0) 0
  guard (fitsNat 63 n)
  return .int n

/-- The sign of a number, if it has one. -/
def sign : Reader Bool := fun text => some (splitSign text)

/-- The part of a number after its point, if it has one. -/
def fractionPart : Reader (Option (List Char)) := do
  if ← accept ['.'] then return some (← decimalDigits) else return none

/-- The exponent of a number, if it has one. -/
def exponentPart : Reader (Option Int) := do
  if ← acceptOneOf ['e', 'E'] then
    let negative ← sign
    return some (signedInt negative (digitsValue (← decimalDigits)))
  else return none

/-- A floating-point number with a sign. -/
def signedFloat (negative : Bool) (magnitude : Float) : Value :=
  .float (if negative then -magnitude else magnitude)

/-- A decimal number: an integer of sixty-four bits, or a floating-point number when it has a point
or an exponent. One too large for a floating-point number may only be negative, and is infinite. -/
def decimalNumber (negative : Bool) : Reader Value := do
  let whole ← wholePart
  match ← fractionPart, ← exponentPart with
  | none, none =>
    let n := signedInt negative (digitsValue whole)
    guard (fitsInt64 n)
    return .int n
  | fraction, exponent =>
    let fraction := fraction.getD []
    let x := ofDecimal (digitsValue (whole ++ fraction)) (exponent.getD 0 - fraction.length)
    guard (negative || !x.isInf)
    return signedFloat negative x

/-- A number. -/
def number : Reader Value := do
  if ← accept ['0', 'x'] then return ← intIn 16
  if ← accept ['0', 'o'] then return ← intIn 8
  if ← accept ['0', 'b'] then return ← intIn 2
  let negative ← sign
  if ← accept "inf".toList then return signedFloat negative (1 / 0)
  if ← accept "nan".toList then return signedFloat negative (0 / 0)
  decimalNumber negative

/-! ### Dates and times -/

/-- A number of a fixed number of digits, within bounds. -/
def fixedNumber (count low high : Nat) : Reader Nat := do
  let n := digitsValue (← takeExactly count isAsciiDigit)
  guard (low ≤ n && n ≤ high)
  return n

/-- A calendar date. -/
def date : Reader Unit := do
  let year ← fixedNumber 4 0 9999
  character '-'
  let month ← fixedNumber 2 1 12
  character '-'
  let day ← fixedNumber 2 1 31
  guard (Date.isValid { year, month, day })

/-- A time of day. Second sixty is allowed for leap seconds. -/
def timeOfDay : Reader Unit := do
  let _ ← fixedNumber 2 0 23
  character ':'
  let _ ← fixedNumber 2 0 59
  character ':'
  let _ ← fixedNumber 2 0 60
  if ← accept ['.'] then
    let _ ← takeSome isAsciiDigit

/-- An offset from UTC, if there is one. -/
def offset : Reader Unit := do
  if ← acceptOneOf ['Z', 'z'] then return ()
  if ← acceptOneOf ['+', '-'] then
    let _ ← fixedNumber 2 0 23
    character ':'
    let _ ← fixedNumber 2 0 59

/-- Whether a text begins as a date does: with four digits and a hyphen. -/
def beginsDate (text : List Char) : Bool :=
  (text.take 4).all isAsciiDigit && (text.drop 4).head? == some '-'

/-- Whether a text begins as a time of day does: with two digits and a colon. -/
def beginsTime (text : List Char) : Bool :=
  (text.take 2).all isAsciiDigit && (text.drop 2).head? == some ':'

/-- A date, perhaps with a time of day and an offset. -/
def dateTime : Reader Value := do
  date
  match ← get with
  | c :: rest =>
    if (c = 'T' || c = 't' || c = ' ') && beginsTime rest then
      set rest
      timeOfDay
      offset
    return .dateTime
  | [] => return .dateTime

/-- A number, a date or a time. -/
def numberOrDate : Reader Value := do
  let text ← get
  if beginsDate text then dateTime
  else if beginsTime text then
    timeOfDay
    return .dateTime
  else number

end FlowAudit.Toml
