import FlowAudit.Text.Utf8
import Mathlib.Data.UInt

/-!
# FlowAudit.Proofs.Text.Utf8

**Text that is encoded in UTF-8 is spelled by its bytes as it was, character for character**
(`spellingOfBytes_toUTF8`). The first byte of a character says how many are to come and bounds the
next one. The bounds let through what encoding gives: they keep out the longer ways to encode a
character, and the halves of surrogate pairs, which are no characters.
-/

namespace FlowAudit.Text

/-! ### Bytes as a list -/

theorem toList_loop (bytes : ByteArray) (i : Nat) (before : List UInt8) :
    ByteArray.toList.loop bytes i before = before.reverse ++ bytes.data.toList.drop i := by
  induction i, before using ByteArray.toList.loop.induct bytes with
  | case1 i before within ih =>
      have bound : i < bytes.data.toList.length := within
      have byte : bytes.get! i = bytes.data.toList[i] := getElem!_pos bytes.data i within
      rw [ByteArray.toList.loop, if_pos within, ih, List.drop_eq_getElem_cons bound, byte,
        List.reverse_cons, List.append_assoc, List.singleton_append]
  | case2 i before beyond =>
      have none_left : bytes.data.toList.length ≤ i := Nat.le_of_not_lt beyond
      rw [ByteArray.toList.loop, if_neg beyond, List.drop_eq_nil_of_le none_left, List.append_nil]

/-- The bytes of a text are those of its characters. -/
theorem toList_toUTF8 (text : String) :
    text.toUTF8.toList = text.toList.flatMap String.utf8EncodeChar := by
  have encoded : text.toUTF8 = text.toList.utf8Encode := by
    rw [← String.toByteArray_ofList, String.ofList_toList]
    rfl
  rw [ByteArray.toList, toList_loop, List.reverse_nil, List.nil_append, List.drop_zero, encoded,
    List.utf8Encode, List.toList_data_toByteArray]

/-! ### What bytes begin and go on with -/

/-- What the next byte is at least after the first of three with the given bits. -/
def lowOfThree (bits : Nat) : UInt8 :=
  if bits = 0 then 0xA0 else 0x80

/-- What the next byte is at most after the first of three with the given bits. -/
def highOfThree (bits : Nat) : UInt8 :=
  if bits = 0xD then 0x9F else 0xBF

/-- What the next byte is at least after the first of four with the given bits. -/
def lowOfFour (bits : Nat) : UInt8 :=
  if bits = 0 then 0x90 else 0x80

/-- What the next byte is at most after the first of four with the given bits. -/
def highOfFour (bits : Nat) : UInt8 :=
  if bits = 4 then 0x8F else 0xBF

theorem firstByte_ascii : ∀ code ≤ 0x7F,
    firstByte (UInt8.ofNat code) = ([some (Char.ofNat code)], none) := by
  decide

theorem firstByte_ofTwo : ∀ bits < 32, 2 ≤ bits →
    firstByte (UInt8.ofNat (bits + 192)) = ([], some ⟨0, bits, 0x80, 0xBF⟩) := by
  decide

theorem firstByte_ofThree : ∀ bits < 16,
    firstByte (UInt8.ofNat (bits + 224)) =
      ([], some ⟨1, bits, lowOfThree bits, highOfThree bits⟩) := by
  decide

theorem firstByte_ofFour : ∀ bits < 5,
    firstByte (UInt8.ofNat (bits + 240)) =
      ([], some ⟨2, bits, lowOfFour bits, highOfFour bits⟩) := by
  decide

/-! ### Characters -/

theorem spellingFrom_cons (begun? : Option BegunChar) (byte : UInt8) (rest : List UInt8) :
    spellingFrom begun? (byte :: rest) =
      (nextByte begun? byte).1 ++ spellingFrom (nextByte begun? byte).2 rest := by
  cases begun? <;> rfl

theorem spellingFrom_begins {byte : UInt8} {begun : BegunChar}
    (begins : firstByte byte = ([], some begun)) (rest : List UInt8) :
    spellingFrom none (byte :: rest) = spellingFrom (some begun) rest := by
  rw [spellingFrom_cons, nextByte, begins]
  rfl

section Continue

variable {code bits : Nat} {low high : UInt8} (small : bits < 64) (above : low.toNat ≤ bits + 128)
  (below : bits + 128 ≤ high.toNat) (rest : List UInt8)

include small in
theorem toNat_continuing : (UInt8.ofNat (bits + 128)).toNat = bits + 128 := by
  rw [UInt8.toNat_ofNat']
  omega

include small above below in
theorem continuing_within :
    (low ≤ UInt8.ofNat (bits + 128) && UInt8.ofNat (bits + 128) ≤ high) = true := by
  rw [Bool.and_eq_true, decide_eq_true_iff, decide_eq_true_iff, UInt8.le_iff_toNat_le,
    UInt8.le_iff_toNat_le, toNat_continuing small]
  exact ⟨above, below⟩

include small above below in
/-- A byte before the last one of a character adds its bits. -/
theorem spellingFrom_more (more : Nat) :
    spellingFrom (some ⟨more + 1, code, low, high⟩) (UInt8.ofNat (bits + 128) :: rest) =
      spellingFrom (some ⟨more, code * 64 + bits, 0x80, 0xBF⟩) rest := by
  have value : (bits + 128) % 64 = bits := by omega
  rw [spellingFrom_cons, nextByte, if_pos (continuing_within small above below),
    toNat_continuing small, value]
  rfl

include small above below in
/-- The last byte of a character adds its bits and gives the character. -/
theorem spellingFrom_last :
    spellingFrom (some ⟨0, code, low, high⟩) (UInt8.ofNat (bits + 128) :: rest) =
      some (Char.ofNat (code * 64 + bits)) :: spellingFrom none rest := by
  have value : (bits + 128) % 64 = bits := by omega
  rw [spellingFrom_cons, nextByte, if_pos (continuing_within small above below),
    toNat_continuing small, value]
  rfl

end Continue

section Encoded

variable {code : Nat} (rest : List UInt8)

theorem spellingFrom_one (below : code ≤ 0x7F) :
    spellingFrom none (UInt8.ofNat code :: rest) =
      some (Char.ofNat code) :: spellingFrom none rest := by
  rw [spellingFrom_cons, nextByte, firstByte_ascii code below]
  rfl

theorem spellingFrom_two (above : 0x7F < code) (below : code ≤ 0x7FF) :
    spellingFrom none (UInt8.ofNat (code / 64 % 32 + 192) :: UInt8.ofNat (code % 64 + 128) :: rest) =
      some (Char.ofNat code) :: spellingFrom none rest := by
  have value : code / 64 % 32 * 64 + code % 64 = code := by omega
  rw [spellingFrom_begins (firstByte_ofTwo _ (by omega) (by omega)),
    spellingFrom_last (by omega) (by simp) (by simp; omega), value]

theorem spellingFrom_three (above : 0x7FF < code) (below : code ≤ 0xFFFF)
    (no_half : code < 0xD800 ∨ 0xDFFF < code) :
    spellingFrom none (UInt8.ofNat (code / 4096 % 16 + 224) ::
        UInt8.ofNat (code / 64 % 64 + 128) :: UInt8.ofNat (code % 64 + 128) :: rest) =
      some (Char.ofNat code) :: spellingFrom none rest := by
  have value : (code / 4096 % 16 * 64 + code / 64 % 64) * 64 + code % 64 = code := by omega
  -- Without any first bits the code is above 0x7FF by the next six; with the first bits 0xD it is
  -- below the halves of pairs.
  have low : (lowOfThree (code / 4096 % 16)).toNat ≤ code / 64 % 64 + 128 := by
    unfold lowOfThree
    split
    · simp
      omega
    · simp
  have high : code / 64 % 64 + 128 ≤ (highOfThree (code / 4096 % 16)).toNat := by
    unfold highOfThree
    split
    · simp
      omega
    · simp
      omega
  rw [spellingFrom_begins (firstByte_ofThree _ (by omega)), spellingFrom_more (by omega) low high,
    spellingFrom_last (by omega) (by simp) (by simp; omega), value]

theorem spellingFrom_four (above : 0xFFFF < code) (below : code < 0x110000) :
    spellingFrom none (UInt8.ofNat (code / 262144 % 8 + 240) ::
        UInt8.ofNat (code / 4096 % 64 + 128) :: UInt8.ofNat (code / 64 % 64 + 128) ::
        UInt8.ofNat (code % 64 + 128) :: rest) =
      some (Char.ofNat code) :: spellingFrom none rest := by
  have value : ((code / 262144 % 8 * 64 + code / 4096 % 64) * 64 + code / 64 % 64) * 64 +
      code % 64 = code := by omega
  have low : (lowOfFour (code / 262144 % 8)).toNat ≤ code / 4096 % 64 + 128 := by
    unfold lowOfFour
    split
    · simp
      omega
    · simp
  have high : code / 4096 % 64 + 128 ≤ (highOfFour (code / 262144 % 8)).toNat := by
    unfold highOfFour
    split
    · simp
      omega
    · simp
      omega
  rw [spellingFrom_begins (firstByte_ofFour _ (by omega)), spellingFrom_more (by omega) low high,
    spellingFrom_more (by omega) (by simp) (by simp; omega),
    spellingFrom_last (by omega) (by simp) (by simp; omega), value]

end Encoded

/-- **A character is spelled by its bytes**, whatever bytes follow. -/
theorem spellingFrom_utf8EncodeChar (c : Char) (rest : List UInt8) :
    spellingFrom none (String.utf8EncodeChar c ++ rest) = some c :: spellingFrom none rest := by
  have valid : c.val.toNat < 0xD800 ∨ 0xDFFF < c.val.toNat ∧ c.val.toNat < 0x110000 := c.valid
  have char : Char.ofNat c.val.toNat = c := Char.ofNat_toNat c
  simp only [String.utf8EncodeChar]
  split_ifs with one two three
  · rw [List.singleton_append, spellingFrom_one rest one, char]
  · rw [List.cons_append, List.singleton_append, spellingFrom_two rest (by omega) two, char]
  · rw [List.cons_append, List.cons_append, List.singleton_append,
      spellingFrom_three rest (by omega) three (by omega), char]
  · rw [List.cons_append, List.cons_append, List.cons_append, List.singleton_append,
      spellingFrom_four rest (by omega) (by omega), char]

/-- **A text is spelled by its bytes.** -/
theorem spellingOfBytes_toUTF8 (text : String) : spellingOfBytes text.toUTF8 = spelling text := by
  rw [spellingOfBytes, toList_toUTF8, spelling]
  induction text.toList with
  | nil => rfl
  | cons c chars ih => rw [List.flatMap_cons, spellingFrom_utf8EncodeChar, ih, List.map_cons]

end FlowAudit.Text
