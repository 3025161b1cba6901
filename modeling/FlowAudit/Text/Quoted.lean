import FlowAudit.Text.Class
import FlowAudit.Text.HiddenRanges

/-!
# FlowAudit.Text.Quoted

Text in double quotes, for messages. What cannot be seen on its own is written as its code point in
hexadecimal digits: controls, separators other than the blank, unassigned characters, fillers, and
characters that attach themselves to the one before.
-/

namespace FlowAudit.Text

/-- The letters that fill the place of one and are not drawn. -/
def isFiller (c : Char) : Bool :=
  c == '\u115f' || c == '\u1160' || c == '\u3164' || c == '\uffa0'

/-- Whether a character is written as its code point. -/
def isHidden (c : Char) : Bool :=
  if ' ' ≤ c && c ≤ '~' then false
  else inRanges attachingRanges c || inRanges invisibleRanges c || isFiller c

/-- A character by its code point. -/
def codePoint (c : Char) : List Char :=
  ['\\', 'u', '\x7b'] ++ Nat.toDigits 16 c.toNat ++ ['\x7d']

/-- A character between quotes. -/
def quotedChar (c : Char) : List Char :=
  match c with
  | '\x00' => ['\\', '0']
  | '\t' => ['\\', 't']
  | '\r' => ['\\', 'r']
  | '\n' => ['\\', 'n']
  | '"' => ['\\', '"']
  | '\\' => ['\\', '\\']
  | c => if isHidden c then codePoint c else [c]

/-- A text with its quotes. -/
def quoted (text : String) : String :=
  String.ofList ('"' :: text.toList.flatMap quotedChar ++ ['"'])

end FlowAudit.Text
