import FlowAudit.Text.Class

/-!
# FlowAudit.Source.Line

One line of masked source. Masking keeps the three kinds of text of a line apart: code, with
comments removed and the contents of literals left out; comment text; and the contents of the
string and template literals that end on the line. Brace depth is known at the start of the line
and can be followed through its code.
-/

namespace FlowAudit.Source

open FlowAudit.Text

/-- A line of source after masking. -/
structure Line where
  /-- Its number, counted from 1. Sources are taken to have less than 2^32 lines, so that it fits into a
  word of thirty-two bits. -/
  number : Nat
  /-- The line as it stands in the source, without its line ending. -/
  raw : List Char
  /-- The code of the line. Quotes are kept, so `x = ""` still reads as an assignment. -/
  code : List Char
  /-- The comment text of the line. -/
  comment : List Char
  /-- The contents of the literals that end on this line, in order. -/
  literals : List (List Char)
  /-- The number of braces open at the start of the line. -/
  depth : Nat
  deriving Repr, DecidableEq

/-- The number of open braces after some code; a closing brace with none open is ignored. -/
def depthAfter (depth : Nat) (code : List Char) : Nat :=
  code.foldl (fun d c => if c = '{' then d + 1 else if c = '}' then d - 1 else d) depth

/-- The greatest number of open braces that an opening brace of the code leads to, if it has one. -/
def deepest (depth : Nat) : List Char → Nat
  | [] => 0
  | c :: rest =>
    if c = '{' then max (depth + 1) (deepest (depth + 1) rest)
    else if c = '}' then deepest (depth - 1) rest
    else deepest depth rest

namespace Line

/-- The number of braces open at the end of the line. -/
def endDepth (line : Line) : Nat :=
  depthAfter line.depth line.code

/-- Whether the line holds nothing but blanks. -/
def isBlank (line : Line) : Bool :=
  allBlank line.raw

end Line

/-- The characters of a text that lie within its first `size` bytes of UTF-8, provided the last of
them ends exactly there or the text ends before. -/
def takeBytes? : Nat → List Char → Option (List Char)
  | 0, _ => some []
  | _ + 1, [] => some []
  | size + 1, c :: rest =>
    if c.utf8Size ≤ size + 1 then (takeBytes? (size + 1 - c.utf8Size) rest).map (c :: ·) else none

/-- The number of braces open at a byte offset into the code of a line; none when the offset falls
inside a character. -/
def Line.depthAt? (line : Line) (offset : Nat) : Option Nat :=
  (takeBytes? offset line.code).map (depthAfter line.depth)

end FlowAudit.Source
