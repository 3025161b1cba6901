/-!
# FlowAudit.Text.Utf8

Bytes read as UTF-8, also where they are none. Bytes that begin a character and do not go on as one
count as one gap: the longest run that some character begins with, or else a single byte.
-/

namespace FlowAudit.Text

/-- Characters, with nothing where bytes make none. -/
abbrev Spelling := List (Option Char)

/-- The spelling of a text, which has no gaps. -/
def spelling (text : String) : Spelling :=
  text.toList.map some

/-- A character whose first bytes are read. -/
structure BegunChar where
  /-- How many bytes it lacks beyond the next one. -/
  more : Nat
  /-- The number that the bits so far give. -/
  code : Nat
  /-- What the next byte is at least. -/
  low : UInt8
  /-- What the next byte is at most. -/
  high : UInt8
  deriving Repr, DecidableEq

/-- What a byte beyond ASCII begins. The bounds on the next byte keep out longer spellings than
needed, halves of surrogate pairs, and numbers beyond the last code point. -/
def BegunChar.ofByte? (byte : UInt8) : Option BegunChar :=
  let bits := byte.toNat
  if 0xC2 ≤ byte && byte ≤ 0xDF then some ⟨0, bits - 0xC0, 0x80, 0xBF⟩
  else if byte = 0xE0 then some ⟨1, 0, 0xA0, 0xBF⟩
  else if byte = 0xED then some ⟨1, 0xD, 0x80, 0x9F⟩
  else if 0xE1 ≤ byte && byte ≤ 0xEF then some ⟨1, bits - 0xE0, 0x80, 0xBF⟩
  else if byte = 0xF0 then some ⟨2, 0, 0x90, 0xBF⟩
  else if byte = 0xF4 then some ⟨2, 4, 0x80, 0x8F⟩
  else if 0xF1 ≤ byte && byte ≤ 0xF3 then some ⟨2, bits - 0xF0, 0x80, 0xBF⟩
  else none

/-- What a byte spells between characters, and the character it begins, if it begins one. -/
def firstByte (byte : UInt8) : Spelling × Option BegunChar :=
  if byte < 0x80 then ([some (Char.ofNat byte.toNat)], none)
  else match BegunChar.ofByte? byte with
    | some begun => ([], some begun)
    | none => ([none], none)

/-- What a byte spells after those of a character that is begun, if one is, and the character that is
begun after it. -/
def nextByte : Option BegunChar → UInt8 → Spelling × Option BegunChar
  | none, byte => firstByte byte
  | some begun, byte =>
    if begun.low ≤ byte && byte ≤ begun.high then
      let code := begun.code * 64 + byte.toNat % 64
      match begun.more with
      | 0 => ([some (Char.ofNat code)], none)
      | more + 1 => ([], some { more, code, low := 0x80, high := 0xBF })
    else
      let (spelled, begun?) := firstByte byte
      (none :: spelled, begun?)

/-- What bytes spell after those of a character that is begun, if one is. -/
def spellingFrom : Option BegunChar → List UInt8 → Spelling
  | none, [] => []
  | some _, [] => [none]
  | begun?, byte :: rest =>
    let (spelled, begun?) := nextByte begun? byte
    spelled ++ spellingFrom begun? rest

/-- What bytes spell. -/
def spellingOfBytes (bytes : ByteArray) : Spelling :=
  spellingFrom none bytes.toList

/-- The text of a spelling, with the replacement character for its gaps. -/
def Spelling.text (spelled : Spelling) : String :=
  String.ofList (spelled.map (·.getD '\ufffd'))

end FlowAudit.Text
