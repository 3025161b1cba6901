/-!
# FlowAudit.Render.Page

Text for a terminal: pieces of text, each in a style. A page is written with the escape sequences of
its styles, or plain, without them. Padding is part of the text of a piece, so both come out at the
same width.
-/

namespace FlowAudit.Render

inductive Color where
  | red
  | green
  | yellow
  | blue
  | cyan
  deriving Repr, DecidableEq

/-- How a piece of text looks. -/
structure Style where
  color : Option Color := none
  bold : Bool := false
  dim : Bool := false
  deriving Repr, DecidableEq

/-- Text in one style. -/
structure Piece where
  text : String
  style : Style := {}
  deriving Repr, DecidableEq

/-- Text in many styles. -/
abbrev Page := List Piece

instance : Coe String Piece := ⟨fun text => { text }⟩

/-- The number of a colour among the codes of terminals. -/
def Color.code : Color → Nat
  | .red => 31
  | .green => 32
  | .yellow => 33
  | .blue => 34
  | .cyan => 36

/-- The codes of a style: colour, then bold, then dim. -/
def Style.codes (style : Style) : List Nat :=
  style.color.toList.map Color.code
    ++ (if style.bold then [1] else []) ++ (if style.dim then [2] else [])

/-- The escape sequence for a code. -/
def escape (code : Nat) : List Char :=
  ['\x1b', '['] ++ Nat.toDigits 10 code ++ ['m']

namespace Piece

/-- The text between the escape sequences of its style; without any style, the text alone. -/
def colored (piece : Piece) : List Char :=
  match piece.style.codes with
  | [] => piece.text.toList
  | codes => codes.flatMap escape ++ piece.text.toList ++ escape 0

end Piece

namespace Page

/-- The text of a page without its styles. -/
def plain (page : Page) : String :=
  String.ofList (page.flatMap fun piece => piece.text.toList)

/-- The text of a page with its styles. -/
def colored (page : Page) : String :=
  String.ofList (page.flatMap Piece.colored)

end Page

/-! ### Pieces -/

def bold (text : String) : Piece := { text, style := { bold := true } }
def dim (text : String) : Piece := { text, style := { dim := true } }
def paint (color : Color) (text : String) : Piece := { text, style := { color := some color } }
def red (text : String) : Piece := paint .red text
def green (text : String) : Piece := paint .green text
def yellow (text : String) : Piece := paint .yellow text
def blue (text : String) : Piece := paint .blue text
def cyan (text : String) : Piece := paint .cyan text

/-- Blanks before a text up to a width. -/
def padLeft (width : Nat) (text : String) : String :=
  String.ofList (List.replicate (width - text.length) ' ') ++ text

/-- Blanks after a text up to a width. -/
def padRight (width : Nat) (text : String) : String :=
  text ++ String.ofList (List.replicate (width - text.length) ' ')

/-- Pieces that make up a line. -/
def line (pieces : List Piece) : Page :=
  pieces ++ [{ text := "\n" }]

/-- A title with a rule under it. -/
def header (title : String) : Page :=
  line ["\n", bold title] ++ line [dim (String.ofList (List.replicate 38 '─'))]

/-- What can be shown as a page. -/
class ToPage (α : Type) where
  page : α → Page

export ToPage (page)

end FlowAudit.Render
