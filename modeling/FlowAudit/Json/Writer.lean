import FlowAudit.Json.Value

/-!
# FlowAudit.Json.Writer

JSON values as text: on one line without blanks, or spread over lines with two blanks of indentation.

Strings escape the quote, the backslash and control characters, and nothing else. A floating-point
number is written with the fewest digits that read back, a tie going to the even ones; it keeps a
`.0` when it is whole, and takes an exponent when it has more than sixteen digits before the point or
begins with five zeros or more after it. Numbers that are not finite are written as `null`.
-/

namespace FlowAudit.Json

/-- A hexadecimal digit. -/
def hexDigit (n : Nat) : Char :=
  if n < 10 then Char.ofNat (48 + n) else Char.ofNat (87 + n)

/-- A character in a string. -/
def escapeChar (c : Char) : List Char :=
  match c with
  | '"' => ['\\', '"']
  | '\\' => ['\\', '\\']
  | '\x08' => ['\\', 'b']
  | '\x0c' => ['\\', 'f']
  | '\n' => ['\\', 'n']
  | '\r' => ['\\', 'r']
  | '\t' => ['\\', 't']
  | c =>
    if c.toNat < 0x20 then ['\\', 'u', '0', '0', hexDigit (c.toNat / 16), hexDigit (c.toNat % 16)]
    else [c]

/-- A string with its quotes. -/
def writeString (s : String) : List Char :=
  '"' :: s.toList.flatMap escapeChar ++ ['"']

open FlowAudit.Number in
/-- A floating-point number. -/
def writeFloat (x : Float) : List Char :=
  match parts x with
  | .nan | .infinite _ => "null".toList
  | .finite v =>
    withSign v.negative <|
      if v.mantissa = 0 then "0.0".toList
      else
        let d := shortest .toEven v
        let pointAt : Int := (digitChars d.digits).length + d.exponent
        if -5 < pointAt && pointAt ≤ 16 then
          let (whole, fraction) := positional d
          whole ++ '.' :: (if fraction.isEmpty then ['0'] else fraction)
        else scientific d

/-- An integer. -/
def writeInt (n : Int) : List Char :=
  (toString n).toList

/-- A value of one token. -/
def writeAtom : Value → List Char
  | .null => "null".toList
  | .bool true => "true".toList
  | .bool false => "false".toList
  | .int n => writeInt n
  | .float x => writeFloat x
  | .string s => writeString s
  | .array _ => "[]".toList
  | .object _ => "{}".toList

mutual

/-- A value on one line, before what follows it. -/
def writeLine (after : List Char) : Value → List Char
  | .array items => '[' :: writeItems (']' :: after) items
  | .object members => '{' :: writeMembers ('}' :: after) members
  | value => writeAtom value ++ after

def writeItems (after : List Char) : List Value → List Char
  | [] => after
  | [item] => writeLine after item
  | item :: rest => writeLine (',' :: writeItems after rest) item

def writeMembers (after : List Char) : List (String × Value) → List Char
  | [] => after
  | [(key, value)] => writeString key ++ ':' :: writeLine after value
  | (key, value) :: rest =>
    writeString key ++ ':' :: writeLine (',' :: writeMembers after rest) value

end

/-- A line break and the indentation of the next line. -/
def lineBreak (indent : Nat) : List Char :=
  '\n' :: List.replicate (2 * indent) ' '

mutual

/-- A value spread over lines, before what follows it. -/
def writePretty (indent : Nat) (after : List Char) : Value → List Char
  | .array (item :: rest) =>
    '[' :: writePrettyItems (indent + 1) (lineBreak indent ++ ']' :: after) (item :: rest)
  | .object (member :: rest) =>
    '{' :: writePrettyMembers (indent + 1) (lineBreak indent ++ '}' :: after) (member :: rest)
  | value => writeAtom value ++ after

def writePrettyItems (indent : Nat) (after : List Char) : List Value → List Char
  | [] => after
  | [item] => lineBreak indent ++ writePretty indent after item
  | item :: rest =>
    lineBreak indent ++ writePretty indent (',' :: writePrettyItems indent after rest) item

def writePrettyMembers (indent : Nat) (after : List Char) : List (String × Value) → List Char
  | [] => after
  | [(key, value)] =>
    lineBreak indent ++ writeString key ++ ':' :: ' ' :: writePretty indent after value
  | (key, value) :: rest =>
    lineBreak indent ++ writeString key ++ ':' :: ' ' ::
      writePretty indent (',' :: writePrettyMembers indent after rest) value

end

namespace Value

/-- The value on one line. -/
def line (value : Value) : String :=
  String.ofList (writeLine [] value)

/-- The value spread over lines. -/
def pretty (value : Value) : String :=
  String.ofList (writePretty 0 [] value)

end Value

end FlowAudit.Json
