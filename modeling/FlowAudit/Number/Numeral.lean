import FlowAudit.Number.Decimal
import FlowAudit.Number.Word
import FlowAudit.Text.Class

/-!
# FlowAudit.Number.Numeral

Reading whole texts as numbers. A sign may stand first. A floating-point number needs a digit before
or after its point; it may have an exponent, and it may be infinite or no number at all. One that is
too large is infinite.
-/

namespace FlowAudit.Number

open FlowAudit.Text

/-- A text without its sign, and whether that is a minus. -/
def splitSign : List Char → Bool × List Char
  | '-' :: rest => (true, rest)
  | '+' :: rest => (false, rest)
  | text => (false, text)

/-- A number with a sign. -/
def signedInt (negative : Bool) (magnitude : Nat) : Int :=
  if negative then -magnitude else magnitude

/-- An integer of sixty-four bits. -/
def int64? (text : List Char) : Option Int :=
  let (negative, digits) := splitSign text
  if digits.isEmpty || !digits.all isAsciiDigit then none
  else
    let n := signedInt negative (digitsValue digits)
    if fitsInt64 n then some n else none

/-- A natural number of some bits. A plus may stand first, but no minus. -/
def natural? (bits : Nat) (text : List Char) : Option Nat :=
  let digits := match text with
    | '+' :: rest => rest
    | text => text
  if digits.isEmpty || !digits.all isAsciiDigit then none
  else if fitsNat bits (digitsValue digits) then some (digitsValue digits) else none

/-- The exponent that a text after its `e` gives, if the whole of it does. -/
def exponent? (text : List Char) : Option Int :=
  let (negative, digits) := splitSign text
  if digits.isEmpty || !digits.all isAsciiDigit then none
  else some (signedInt negative (digitsValue digits))

/-- A decimal number without a sign, if it has a digit. -/
def decimal? (text : List Char) : Option Float := do
  let whole := text.takeWhile isAsciiDigit
  let text := text.dropWhile isAsciiDigit
  let (fraction, text) := match text with
    | '.' :: rest => (rest.takeWhile isAsciiDigit, rest.dropWhile isAsciiDigit)
    | _ => ([], text)
  let exponent ← match text with
    | [] => some 0
    | c :: rest => if c = 'e' || c = 'E' then exponent? rest else none
  if whole.isEmpty && fraction.isEmpty then none
  else return ofDecimal (digitsValue (whole ++ fraction)) (exponent - fraction.length)

/-- A floating-point number. -/
def float? (text : List Char) : Option Float := do
  let (negative, rest) := splitSign text
  let magnitude ←
    match String.ofList (rest.map asciiLower) with
    | "inf" | "infinity" => some (1 / 0)
    | "nan" => some (0 / 0)
    | _ => decimal? rest
  return if negative then -magnitude else magnitude

end FlowAudit.Number
