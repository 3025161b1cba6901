import FlowAudit.Number.Decimal
import FlowAudit.Text.Class
import FlowAudit.Text.Utf8

/-!
# FlowAudit.Json.Syntax

JSON text as it is written. `parse?` reads a text into a tree that follows its grammar and leaves
open what the parts mean: a numeral keeps all its digits, whatever its size; a string may hold bytes
that spell no character and halves of surrogate pairs that stand alone; an object may repeat a key;
and nesting may go to any depth. What of this is acceptable depends on what a value is read for, and
a value that is not read for anything only has to follow the grammar.
-/

namespace FlowAudit.Json

open FlowAudit.Number FlowAudit.Text

/-- A number as written: its digits without the point, and the power of ten they count. -/
structure Numeral where
  negative : Bool
  digits : Nat
  exponent : Int
  /-- Whether it is written without point and exponent. -/
  whole : Bool
  deriving Repr, DecidableEq

/-- The contents of a string; half of a surrogate pair leaves a gap in them. -/
abbrev Contents := Spelling

/-- A JSON value as written. -/
inductive Tree where
  | null
  | bool (value : Bool)
  | number (numeral : Numeral)
  | string (contents : Contents)
  | array (items : List Tree)
  | object (members : List (Contents × Tree))

/-- The blanks of JSON. -/
def isSpace (c : Char) : Bool :=
  c == ' ' || c == '\n' || c == '\t' || c == '\r'

def skipSpace (text : Spelling) : Spelling :=
  text.dropWhile fun c => c.any isSpace

/-- Four hexadecimal digits and the rest of the text. -/
def hexUnit? : Spelling → Option (Nat × Spelling)
  | some a :: some b :: some c :: some d :: rest => do
    let a ← hexValue? a
    let b ← hexValue? b
    let c ← hexValue? c
    let d ← hexValue? d
    return (((a * 16 + b) * 16 + c) * 16 + d, rest)
  | _ => none

/-- The character that a letter after a backslash stands for. -/
def escapeOf? : Char → Option Char
  | '"' => some '"'
  | '\\' => some '\\'
  | '/' => some '/'
  | 'b' => some '\x08'
  | 'f' => some '\x0c'
  | 'n' => some '\n'
  | 'r' => some '\r'
  | 't' => some '\t'
  | _ => none

/-- Whether a unit is the first half of a surrogate pair. -/
def isHighHalf (unit : Nat) : Bool :=
  0xD800 ≤ unit && unit ≤ 0xDBFF

/-- Whether a unit is the second half of a surrogate pair. -/
def isLowHalf (unit : Nat) : Bool :=
  0xDC00 ≤ unit && unit ≤ 0xDFFF

/-- A unit written as four hexadecimal digits, with the second half if it is the first of a pair;
the text given begins after the `u`. -/
def unitEscape? (text : Spelling) : Option (Option Char × Spelling) := do
  let (unit, rest) ← hexUnit? text
  if isHighHalf unit then
    match rest with
    | some '\\' :: some 'u' :: after =>
      let (second, afterSecond) ← hexUnit? after
      if isLowHalf second then
        return (some (Char.ofNat (0x10000 + (unit - 0xD800) * 0x400 + (second - 0xDC00))),
          afterSecond)
      else return (none, rest)
    | _ => return (none, rest)
  else if isLowHalf unit then return (none, rest)
  else return (some (Char.ofNat unit), rest)

/-- The rest of a string after its opening quote, and what follows the string. -/
def stringBody : Nat → Spelling → Option (Contents × Spelling)
  | 0, _ => none
  | fuel + 1, text =>
    match text with
    | [] => none
    | some '"' :: rest => some ([], rest)
    | some '\\' :: some 'u' :: rest => do
      let (c, rest) ← unitEscape? rest
      let (tail, rest) ← stringBody fuel rest
      return (c :: tail, rest)
    | some '\\' :: some c :: rest => do
      let c ← escapeOf? c
      let (tail, rest) ← stringBody fuel rest
      return (some c :: tail, rest)
    | some '\\' :: _ => none
    | c :: rest =>
      if c.any (·.toNat < 0x20) then none
      else do
        let (tail, rest) ← stringBody fuel rest
        return (c :: tail, rest)

/-- The digits at the beginning of a text, and the rest. -/
def leadingDigits (text : Spelling) : List Char × Spelling :=
  let isDigit (c : Option Char) := c.any isAsciiDigit
  ((text.takeWhile isDigit).filterMap id, text.dropWhile isDigit)

/-- The digits of an exponent after its sign, and the rest. -/
def powerDigits? (negative : Bool) (text : Spelling) : Option (Int × Spelling) :=
  let (digits, rest) := leadingDigits text
  if digits.isEmpty then none
  else
    let value : Int := digitsValue digits
    some (if negative then -value else value, rest)

/-- The exponent of a numeral after its `e`, and the rest. -/
def exponent? : Spelling → Option (Int × Spelling)
  | some '-' :: rest => powerDigits? true rest
  | some '+' :: rest => powerDigits? false rest
  | text => powerDigits? false text

/-- The fraction of a numeral, if it has one, and the rest. At least one digit follows a point. -/
def fraction? : Spelling → Option (List Char × Spelling)
  | some '.' :: rest =>
    let (fraction, rest) := leadingDigits rest
    if fraction.isEmpty then none else some (fraction, rest)
  | text => some ([], text)

/-- The exponent of a numeral, if it has one, and the rest. -/
def power? : Spelling → Option (Option Int × Spelling)
  | some 'e' :: rest | some 'E' :: rest => (exponent? rest).map fun (power, rest) => (some power, rest)
  | text => some (none, text)

/-- A numeral after its sign, and the rest. Zeros before other digits are not allowed. -/
def unsigned? (negative : Bool) (text : Spelling) : Option (Numeral × Spelling) := do
  let (whole, text) := leadingDigits text
  guard (!whole.isEmpty && (whole.head? != some '0' || whole.length = 1))
  let (fraction, text) ← fraction? text
  let (power?, text) ← power? text
  return ({ negative
            digits := digitsValue (whole ++ fraction)
            exponent := power?.getD 0 - fraction.length
            whole := fraction.isEmpty && power?.isNone }, text)

/-- A numeral at the beginning of a text, and the rest. -/
def numeral? : Spelling → Option (Numeral × Spelling)
  | some '-' :: rest => unsigned? true rest
  | text => unsigned? false text

/-- The text after a given beginning. -/
def expect? : List Char → Spelling → Option Spelling
  | [], text => some text
  | c :: word, some d :: text => if c = d then expect? word text else none
  | _ :: _, _ => none

/-- The key of a member, and the rest. -/
def key? (fuel : Nat) (text : Spelling) : Option (Contents × Spelling) :=
  match skipSpace text with
  | some '"' :: rest => stringBody fuel rest
  | _ => none

mutual

/-- A value at the beginning of a text, and the rest. -/
def value? : Nat → Spelling → Option (Tree × Spelling)
  | 0, _ => none
  | fuel + 1, text =>
    match skipSpace text with
    | [] => none
    | some 'n' :: rest => (expect? "ull".toList rest).map (Tree.null, ·)
    | some 't' :: rest => (expect? "rue".toList rest).map (Tree.bool true, ·)
    | some 'f' :: rest => (expect? "alse".toList rest).map (Tree.bool false, ·)
    | some '"' :: rest => (stringBody fuel rest).map fun (s, rest) => (.string s, rest)
    | some '[' :: rest =>
      match skipSpace rest with
      | some ']' :: rest => some (.array [], rest)
      | rest => (items? fuel rest).map fun (items, rest) => (.array items, rest)
    | some '{' :: rest =>
      match skipSpace rest with
      | some '}' :: rest => some (.object [], rest)
      | rest => (members? fuel rest).map fun (members, rest) => (.object members, rest)
    | text => (numeral? text).map fun (n, rest) => (.number n, rest)

/-- The items of an array up to its closing bracket. -/
def items? : Nat → Spelling → Option (List Tree × Spelling)
  | 0, _ => none
  | fuel + 1, text => do
    let (item, rest) ← value? fuel text
    match skipSpace rest with
    | some ',' :: rest => (items? fuel rest).map fun (items, rest) => (item :: items, rest)
    | some ']' :: rest => some ([item], rest)
    | _ => none

/-- The members of an object up to its closing brace. -/
def members? : Nat → Spelling → Option (List (Contents × Tree) × Spelling)
  | 0, _ => none
  | fuel + 1, text => do
    let (key, rest) ← key? fuel text
    let rest ← expect? [':'] (skipSpace rest)
    let (value, rest) ← value? fuel rest
    match skipSpace rest with
    | some ',' :: rest => (members? fuel rest).map fun (members, rest) => ((key, value) :: members, rest)
    | some '}' :: rest => some ([(key, value)], rest)
    | _ => none

end

/-- The tree of a whole text. Every step of reading a value takes at least one character or leads to
one that does, which bounds the steps by twice the length of the text. -/
def parse? (text : Spelling) : Option Tree :=
  match value? (2 * text.length + 2) text with
  | some (tree, rest) => if (skipSpace rest).isEmpty then some tree else none
  | none => none

end FlowAudit.Json
