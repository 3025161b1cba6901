import FlowAudit.Text.LetterRanges

/-!
# FlowAudit.Text.Class

Character classes of Unicode text: blanks, letters and digits, and the characters that words are
made of. Two notions of "part of a name" live side by side and differ on purpose:

* `isAlphanumeric` holds of letters, of every kind of number (`²` and `Ⅷ` included), and of those
  combining marks that are alphabetic (U+0345, and vowel signs such as U+093E), but of no other mark. It
  follows version 17 of Unicode;
* `isWordChar` holds of letters, combining marks, decimal digits, connectors and joiners, and of no
  other number. It follows version 16.

Both agree on ASCII except for the underscore, which is a word character only.
-/

namespace FlowAudit.Text

/-- Whether a character lies in one of the given inclusive code point ranges. -/
def inRanges (ranges : Array (Nat × Nat)) (c : Char) : Bool :=
  ranges.any fun r => r.1 ≤ c.toNat && c.toNat ≤ r.2

/-- The characters with the property White_Space. -/
def isBlank (c : Char) : Bool :=
  c == ' ' || ('\t' ≤ c && c ≤ '\r') || c == '\u0085' || c == '\u00a0' || c == '\u1680' ||
    ('\u2000' ≤ c && c ≤ '\u200a') || c == '\u2028' || c == '\u2029' || c == '\u202f' ||
    c == '\u205f' || c == '\u3000'

/-- An ASCII letter. -/
def isAsciiLetter (c : Char) : Bool :=
  ('a' ≤ c && c ≤ 'z') || ('A' ≤ c && c ≤ 'Z')

/-- An ASCII decimal digit. -/
def isAsciiDigit (c : Char) : Bool :=
  '0' ≤ c && c ≤ '9'

/-- The value of a hexadecimal digit, with capital or small letters. -/
def hexValue? (c : Char) : Option Nat :=
  if isAsciiDigit c then some (c.toNat - '0'.toNat)
  else if 'a' ≤ c && c ≤ 'f' then some (c.toNat - 'a'.toNat + 10)
  else if 'A' ≤ c && c ≤ 'F' then some (c.toNat - 'A'.toNat + 10)
  else none

/-- A letter or a number of any kind. -/
def isAlphanumeric (c : Char) : Bool :=
  if c.toNat < 128 then isAsciiLetter c || isAsciiDigit c
  else inRanges letterRanges c || inRanges numberRanges c

/-- The connecting punctuation beyond ASCII, and the two joining controls. -/
def isConnector (c : Char) : Bool :=
  c == '\u203f' || c == '\u2040' || c == '\u2054' || c == '\ufe33' || c == '\ufe34' ||
    ('\ufe4d' ≤ c && c ≤ '\ufe4f') || c == '\uff3f' || c == '\u200c' || c == '\u200d'

/-- A character that words are made of: a letter, a combining mark, a decimal digit, an underscore
or another connector, unless version 17 of Unicode added it. -/
def isWordChar (c : Char) : Bool :=
  if c.toNat < 128 then isAsciiLetter c || isAsciiDigit c || c == '_'
  else (inRanges letterRanges c || inRanges markRanges c || inRanges digitRanges c ||
    isConnector c) && !inRanges addedRanges c

/-- A word character or a dollar sign. -/
def isWordOrDollar (c : Char) : Bool :=
  isWordChar c || c == '$'

/-- The text without the blanks before it. -/
def trimStart (text : List Char) : List Char :=
  text.dropWhile isBlank

/-- The text without the blanks after it. -/
def trimEnd (text : List Char) : List Char :=
  (text.reverse.dropWhile isBlank).reverse

/-- The text without the blanks around it. -/
def trim (text : List Char) : List Char :=
  trimEnd (trimStart text)

/-- Whether a text holds nothing but blanks. -/
def allBlank (text : List Char) : Bool :=
  text.all isBlank

/-- An ASCII letter in lower case; any other character as it is. -/
def asciiLower (c : Char) : Char :=
  if 'A' ≤ c && c ≤ 'Z' then Char.ofNat (c.toNat + 32) else c

end FlowAudit.Text
