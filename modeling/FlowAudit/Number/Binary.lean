import FlowAudit.Number.Scalar
import FlowAudit.Number.Word

/-!
# FlowAudit.Number.Binary

The inside of a 64-bit floating-point number: a finite one is a whole number times a power of two.
Rounding to whole numbers is done on that form, exactly.
-/

namespace FlowAudit.Number

/-- A finite floating-point number: `mantissa` times two to the power `exponent`, negated or not. -/
structure Binary where
  negative : Bool
  mantissa : Nat
  exponent : Int
  deriving Repr, DecidableEq

/-- A floating-point number taken apart. -/
inductive Parts where
  | finite (value : Binary)
  | infinite (negative : Bool)
  | nan
  deriving Repr, DecidableEq

/-- The parts of a floating-point number, read off its bits: one bit of sign, eleven of exponent
and fifty-two of fraction. -/
def parts (x : Float) : Parts :=
  let bits : Nat := x.toBits.toNat
  let negative := bits ≥ wordSize 63
  let biased : Nat := bits / wordSize 52 % wordSize 11
  let fraction : Nat := bits % wordSize 52
  if biased = 2047 then if fraction = 0 then .infinite negative else .nan
  else if biased = 0 then .finite ⟨negative, fraction, -1074⟩
  else .finite ⟨negative, fraction + wordSize 52, (biased : Int) - 1075⟩

/-- A whole number with a sign as a floating-point number; zero keeps its sign. -/
def signed (negative : Bool) (magnitude : Nat) : Float :=
  if negative then -(Float.ofNat magnitude) else Float.ofNat magnitude

/-- The nearest whole number; a half goes away from zero. Numbers too large to have a fraction, and
those that are not finite, stay as they are. -/
def roundHalfAway (x : Float) : Float :=
  match parts x with
  | .finite v =>
    if v.exponent ≥ 0 then x
    else
      let unit := wordSize (-v.exponent).toNat
      signed v.negative ((2 * v.mantissa + unit) / (2 * unit))
  | _ => x

/-- The bits of a floating-point number as an integer that grows with the number; minus zero comes
before zero, and values that are no number come at both ends. -/
def orderKey (x : Float) : Int :=
  let bits : Int := x.toBits.toNat
  if bits < (wordSize 63 : Int) then bits else (wordSize 63 : Int) - 1 - bits

instance : Scalar Float where
  ofNat := Float.ofNat
  abs := Float.abs
  sqrt := Float.sqrt
  round := roundHalfAway
  lt a b := a < b
  le a b := a ≤ b
  precedes a b := orderKey a ≤ orderKey b

end FlowAudit.Number
