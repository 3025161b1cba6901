import FlowAudit.Text.Class

/-!
# FlowAudit.Text.Hex

Bytes as text: two hexadecimal digits for each.
-/

namespace FlowAudit.Text

/-- The two digits of a byte. -/
def hexOfByte (byte : UInt8) : List Char :=
  [Nat.digitChar (byte.toNat / 16), Nat.digitChar (byte.toNat % 16)]

/-- The digits of bytes. -/
def hexOfBytes (bytes : List UInt8) : List Char :=
  bytes.flatMap hexOfByte

/-- The bytes that digits stand for, if there are two for each. Capital letters are digits too. -/
def bytesOfHex? : List Char → Option (List UInt8)
  | [] => some []
  | high :: low :: rest => do
    let high ← hexValue? high
    let low ← hexValue? low
    return UInt8.ofNat (16 * high + low) :: (← bytesOfHex? rest)
  | [_] => none

/-- Bytes of a text of digits. -/
def byteArrayOfHex? (text : String) : Option ByteArray :=
  (bytesOfHex? text.toList).map fun bytes => ⟨bytes.toArray⟩

end FlowAudit.Text
