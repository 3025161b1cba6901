import FlowAudit.Json.Writer
import FlowAudit.Proofs.Json.Reader
import Mathlib.Data.List.Forall2

/-!
# FlowAudit.Proofs.Json.Writer

**What is written is read back.** A text is read as a tree if the reader comes to that tree with the text
alone, and then it does so wherever the text stands (`Reads`). Strings, natural numbers, arrays and
objects are read as what they were written from: strings with all characters that Unicode has
(`reads_string`), arrays and objects as long as their parts are (`written_array`, `written_object`).
-/

namespace FlowAudit.Json

open FlowAudit.Number FlowAudit.Text

/-! ### Texts that are read -/

/-- A text is read as a tree, before anything that may follow a value; there may be blanks at its
end. -/
def Reads (text : List Char) (tree : Tree) : Prop :=
  ∀ fuel after, 2 * text.length + 2 ≤ fuel → Ends after →
    ∃ rest, value? fuel (text.map some ++ after) = some (tree, rest) ∧ skipSpace rest = after

/-- **What is read alone is read anywhere.** -/
theorem reads_iff_parse? {text : List Char} {tree : Tree} :
    Reads text tree ↔ parse? (text.map some) = some tree := by
  constructor
  · intro reads
    obtain ⟨rest, read, blank⟩ := reads (2 * text.length + 2) [] (Nat.le_refl _) ends_nil
    rw [List.append_nil] at read
    rw [parse?, List.length_map, read]
    dsimp only
    rw [blank]
    rfl
  · intro parsed fuel after enough ends
    unfold parse? at parsed
    rw [List.length_map] at parsed
    split at parsed
    · rename_i found rest read
      split at parsed
      · rename_i blank
        cases parsed
        refine ⟨rest ++ after, (readAlike enough ends).value read, ?_⟩
        rw [skipSpace_blank (List.isEmpty_iff.mp blank), skipSpace_of_ends ends]
      · cases parsed
    · cases parsed

/-! ### Strings -/

theorem hexValue?_hexDigit {n : Nat} (digit : n < 16) : hexValue? (hexDigit n) = some n := by
  have all : ∀ n < 16, hexValue? (hexDigit n) = some n := by decide
  exact all n digit

/-- A small number is read from the digits that it is written with. -/
theorem hexUnit?_small {n : Nat} (small : n < 0x100) (rest : Spelling) :
    hexUnit? (some '0' :: some '0' :: some (hexDigit (n / 16)) :: some (hexDigit (n % 16)) :: rest) =
      some (n, rest) := by
  have value : n / 16 * 16 + n % 16 = n := by omega
  have zero : hexValue? '0' = some 0 := by decide
  simp only [hexUnit?, zero, hexValue?_hexDigit (by omega : n / 16 < 16),
    hexValue?_hexDigit (by omega : n % 16 < 16), Option.bind_eq_bind, Option.bind_some,
    Nat.zero_mul, Nat.zero_add, value]
  rfl

/-- A character that has to be escaped as a unit comes back from its two digits. -/
theorem unitEscape?_control {c : Char} (control : c.toNat < 0x20) (rest : Spelling) :
    unitEscape? (some '0' :: some '0' :: some (hexDigit (c.toNat / 16)) ::
      some (hexDigit (c.toNat % 16)) :: rest) = some (some c, rest) := by
  have not_high : ¬ isHighHalf c.toNat := by
    unfold isHighHalf
    simp
    omega
  have not_low : ¬ isLowHalf c.toNat := by
    unfold isLowHalf
    simp
    omega
  rw [unitEscape?, hexUnit?_small (by omega)]
  dsimp only [Option.bind_eq_bind, Option.bind_some]
  rw [if_neg not_high, if_neg not_low, Char.ofNat_toNat]
  rfl

/-- **Every character comes back** from what it is written as in a string. -/
theorem stringBody_escapeChar (c : Char) (fuel : Nat) (text : Spelling) :
    stringBody (fuel + 1) ((escapeChar c).map some ++ text) =
      (stringBody fuel text).bind fun (tail, rest) => some (some c :: tail, rest) := by
  unfold escapeChar
  split
  iterate 7
    · exact stringBody_escape (by decide) fuel text
  · rename_i quote backslash _ _ _ _ _
    split
    · rename_i control
      change (unitEscape? (some '0' :: some '0' :: some _ :: some _ :: text)).bind _ = _
      rw [unitEscape?_control control]
      rfl
    · rename_i visible
      rw [List.map_singleton, List.singleton_append,
        stringBody_plain (by simpa using quote) (by simpa using backslash),
        if_neg (by simpa using visible)]

theorem stringBody_escaped (chars : List Char) {fuel : Nat} (enough : chars.length < fuel)
    (after : Spelling) :
    stringBody fuel ((chars.flatMap escapeChar).map some ++ some '"' :: after) =
      some (chars.map some, after) := by
  induction chars generalizing fuel with
  | nil =>
      obtain ⟨fuel, rfl⟩ : ∃ n, fuel = n + 1 := ⟨fuel - 1, by omega⟩
      rfl
  | cons c chars ih =>
      obtain ⟨fuel, rfl⟩ : ∃ n, fuel = n + 1 := ⟨fuel - 1, by omega⟩
      rw [List.flatMap_cons, List.map_append, List.append_assoc, stringBody_escapeChar,
        ih (Nat.lt_of_succ_lt_succ enough)]
      rfl

theorem escapeChar_ne_nil (c : Char) : escapeChar c ≠ [] := by
  unfold escapeChar
  repeat' split
  all_goals exact List.cons_ne_nil _ _

theorem length_le_length_escaped (chars : List Char) :
    chars.length ≤ (chars.flatMap escapeChar).length := by
  induction chars with
  | nil => exact Nat.le_refl _
  | cons c chars ih =>
      have first := List.length_pos_iff.mpr (escapeChar_ne_nil c)
      rw [List.flatMap_cons, List.length_append, List.length_cons]
      omega

/-- A string after its opening quote, with what follows it. -/
theorem stringBody_writeString (s : String) {fuel : Nat} (enough : (writeString s).length ≤ fuel)
    (after : Spelling) :
    stringBody fuel ((s.toList.flatMap escapeChar).map some ++ some '"' :: after) =
      some (spelling s, after) := by
  refine stringBody_escaped s.toList ?_ after
  have shorter := length_le_length_escaped s.toList
  rw [writeString, List.length_append, List.length_cons] at enough
  omega

theorem spell_writeString (s : String) (after : Spelling) :
    (writeString s).map some ++ after =
      some '"' :: ((s.toList.flatMap escapeChar).map some ++ some '"' :: after) := by
  simp [writeString]

/-- **Every string is read back.** -/
theorem reads_string (s : String) : Reads (writeString s) (.string (spelling s)) := by
  intro fuel after enough ends
  obtain ⟨fuel, rfl⟩ : ∃ n, fuel = n + 1 := ⟨fuel - 1, by omega⟩
  refine ⟨after, ?_, skipSpace_of_ends ends⟩
  rw [spell_writeString]
  change (stringBody fuel _).map _ = _
  rw [stringBody_writeString s (by omega)]
  rfl

theorem key?_writeString (s : String) {fuel : Nat} (enough : (writeString s).length ≤ fuel)
    (after : Spelling) :
    key? fuel ((writeString s).map some ++ after) = some (spelling s, after) := by
  rw [spell_writeString]
  exact stringBody_writeString s enough after

/-! ### Numbers and words -/

theorem head?_toDigits_ne_zero {n : Nat} (pos : 0 < n) : (Nat.toDigits 10 n).head? ≠ some '0' := by
  induction n using Nat.strongRecOn with
  | _ n ih =>
      rw [Nat.toDigits_eq_if (by decide)]
      split
      · rw [List.head?_singleton, ne_eq, Option.some.injEq, Nat.digitChar_eq_zero]
        exact Nat.ne_of_gt pos
      · rename_i large
        rw [List.head?_append_of_ne_nil _ Nat.toDigits_ne_nil]
        exact ih (n / 10) (by omega) (by omega)

theorem isAsciiDigit_of_mem_toDigits {n : Nat} {c : Char} (member : c ∈ Nat.toDigits 10 n) :
    isAsciiDigit c = true := by
  have digit : c.isDigit := Nat.isDigit_of_mem_toDigits (by decide) (by decide) member
  exact digit

theorem leadingDigits_digits {digits : List Char} (all : ∀ c ∈ digits, isAsciiDigit c = true)
    {after : Spelling} (ends : Ends after) :
    leadingDigits (digits.map some ++ after) = (digits, after) := by
  induction digits with
  | nil => exact leadingDigits_of_ends ends
  | cons d digits ih =>
      rw [List.map_cons, List.cons_append, leadingDigits_cons (all d List.mem_cons_self),
        ih fun c member => all c (List.mem_cons_of_mem _ member)]

/-- A natural number as a numeral. -/
def Numeral.ofNat (n : Nat) : Numeral where
  negative := false
  digits := n
  exponent := 0
  whole := true

theorem unsigned?_toDigits (n : Nat) {after : Spelling} (ends : Ends after) :
    unsigned? false ((Nat.toDigits 10 n).map some ++ after) = some (.ofNat n, after) := by
  have allowed : (!(Nat.toDigits 10 n).isEmpty &&
      ((Nat.toDigits 10 n).head? != some '0' || (Nat.toDigits 10 n).length = 1)) = true := by
    rcases Nat.eq_zero_or_pos n with rfl | pos
    · decide
    · simp [head?_toDigits_ne_zero pos]
  have value : digitsValue (Nat.toDigits 10 n ++ []) = n := by
    rw [List.append_nil]
    exact Nat.ofDigitChars_ten_toDigits
  unfold unsigned?
  rw [leadingDigits_digits (fun _ => isAsciiDigit_of_mem_toDigits) ends]
  dsimp only
  rw [allowed, fraction?_of_ends ends]
  dsimp only [guard_true, Option.bind_eq_bind, Option.bind_some]
  rw [power?_of_ends ends]
  dsimp only [Option.bind_some]
  rw [value]
  rfl

theorem not_isSpace_of_digit {d : Char} (digit : isAsciiDigit d = true) : isSpace d = false := by
  rw [Bool.eq_false_iff]
  intro space
  simp only [isSpace, Bool.or_eq_true, beq_iff_eq] at space
  rcases space with ((rfl | rfl) | rfl) | rfl <;> cases digit

theorem numeral?_of_digit {d : Char} (digit : isAsciiDigit d = true) (text : Spelling) :
    numeral? (some d :: text) = unsigned? false (some d :: text) := by
  have unsigned : d ≠ '-' := by
    rintro rfl
    cases digit
  simp [numeral?, unsigned]

/-- **Every natural number is read back.** -/
theorem reads_nat (n : Nat) : Reads (writeInt n) (.number (.ofNat n)) := by
  intro fuel after enough ends
  obtain ⟨fuel, rfl⟩ : ∃ n, fuel = n + 1 := ⟨fuel - 1, by omega⟩
  refine ⟨after, ?_, skipSpace_of_ends ends⟩
  have written : writeInt n = Nat.toDigits 10 n := Nat.toList_repr
  cases digits : Nat.toDigits 10 n with
  | nil => exact absurd digits Nat.toDigits_ne_nil
  | cons d rest =>
      have digit : isAsciiDigit d = true :=
        isAsciiDigit_of_mem_toDigits (digits ▸ List.mem_cons_self)
      have opened : skipSpace ((writeInt n).map some ++ after) =
          some d :: (rest.map some ++ after) := by
        rw [written, digits]
        exact skipSpace_of_visible (not_isSpace_of_digit digit) _
      have plain : ∀ c ∈ ['n', 't', 'f', '"', '[', '{'], some d ≠ some c := by
        rintro c member same
        cases same
        simp only [List.mem_cons, List.not_mem_nil, or_false] at member
        rcases member with rfl | rfl | rfl | rfl | rfl | rfl <;> cases digit
      rw [value?_numeral fuel opened plain, numeral?_of_digit digit]
      have whole := unsigned?_toDigits n ends
      rw [digits] at whole
      rw [← List.cons_append, ← List.map_cons, whole]
      rfl

theorem reads_null : Reads "null".toList .null := by
  intro fuel after enough ends
  obtain ⟨fuel, rfl⟩ : ∃ n, fuel = n + 1 := ⟨fuel - 1, by omega⟩
  exact ⟨after, rfl, skipSpace_of_ends ends⟩

/-! ### Values -/

theorem writeItems_cons (after : List Char) (item second : Value) (rest : List Value) :
    writeItems after (item :: second :: rest) =
      writeLine (',' :: writeItems after (second :: rest)) item := by
  rw [writeItems]
  exact List.cons_ne_nil _ _

theorem writeMembers_cons (after : List Char) (key : String) (value : Value)
    (second : String × Value) (rest : List (String × Value)) :
    writeMembers after ((key, value) :: second :: rest) =
      writeString key ++ ':' :: writeLine (',' :: writeMembers after (second :: rest)) value := by
  rw [writeMembers]
  exact List.cons_ne_nil _ _

mutual

/-- What follows a value stands after its text. -/
theorem writeLine_eq (after : List Char) :
    (value : Value) → writeLine after value = writeLine [] value ++ after
  | .null => by simp [writeLine]
  | .bool _ => by simp [writeLine]
  | .int _ => by simp [writeLine]
  | .float _ => by simp [writeLine]
  | .string _ => by simp [writeLine]
  | .array items => by
      rw [writeLine, writeLine, writeItems_eq (']' :: after) items, writeItems_eq [']'] items]
      simp
  | .object members => by
      rw [writeLine, writeLine, writeMembers_eq ('}' :: after) members,
        writeMembers_eq ['}'] members]
      simp

theorem writeItems_eq (after : List Char) :
    (items : List Value) → writeItems after items = writeItems [] items ++ after
  | [] => by simp [writeItems]
  | [item] => writeLine_eq after item
  | item :: second :: rest => by
      rw [writeItems_cons, writeItems_cons, writeLine_eq _ item,
        writeLine_eq (',' :: writeItems [] (second :: rest)) item,
        writeItems_eq after (second :: rest)]
      simp

theorem writeMembers_eq (after : List Char) :
    (members : List (String × Value)) → writeMembers after members = writeMembers [] members ++ after
  | [] => by simp [writeMembers]
  | [(key, value)] => by
      rw [writeMembers, writeMembers, writeLine_eq after value]
      simp
  | (key, value) :: second :: rest => by
      rw [writeMembers_cons, writeMembers_cons, writeLine_eq _ value,
        writeLine_eq (',' :: writeMembers [] (second :: rest)) value,
        writeMembers_eq after (second :: rest)]
      simp

end

/-- The text of a value is read as a tree. -/
def Written (value : Value) (tree : Tree) : Prop :=
  Reads (writeLine [] value) tree

/-- A member of an object is read as a member. -/
def WrittenMember (member : String × Value) (read : Contents × Tree) : Prop :=
  read.1 = spelling member.1 ∧ Written member.2 read.2

theorem written_string (s : String) : Written (.string s) (.string (spelling s)) := by
  have text : writeLine [] (.string s) = writeString s := List.append_nil _
  rw [Written, text]
  exact reads_string s

theorem written_nat (n : Nat) : Written (.nat n) (.number (.ofNat n)) := by
  have text : writeLine [] (.nat n) = writeInt n := List.append_nil _
  rw [Written, text]
  exact reads_nat n

theorem written_null : Written .null .null := reads_null

theorem Written.read {value : Value} {tree : Tree} (written : Written value tree) {fuel : Nat}
    (enough : 2 * (writeLine [] value).length + 2 ≤ fuel) {after : Spelling} (ends : Ends after) :
    ∃ rest, value? fuel ((writeLine [] value).map some ++ after) = some (tree, rest) ∧
      skipSpace rest = after :=
  written fuel after enough ends

theorem items?_written {values : List Value} {trees : List Tree}
    (written : List.Forall₂ Written values trees) (some_left : values ≠ []) {fuel : Nat}
    (enough : 2 * (writeItems [']'] values).length + 1 ≤ fuel) (after : Spelling) :
    items? fuel ((writeItems [']'] values).map some ++ after) = some (trees, after) := by
  induction written generalizing fuel with
  | nil => exact absurd rfl some_left
  | @cons item tree items trees head rest ih =>
      obtain ⟨fuel, rfl⟩ : ∃ n, fuel = n + 1 := ⟨fuel - 1, by omega⟩
      cases rest with
      | nil =>
          have text : writeItems [']'] [item] = writeLine [] item ++ [']'] := writeLine_eq _ item
          rw [text, List.length_append, List.length_singleton] at enough
          obtain ⟨left, read, skipped⟩ := head.read (by omega : _ ≤ fuel) (ends_bracket after)
          rw [text, List.map_append, List.append_assoc, items?]
          change ((value? fuel ((writeLine [] item).map some ++ some ']' :: after)).bind _) = _
          rw [read]
          dsimp only [Option.bind_some]
          rw [skipped]
          rfl
      | @cons second tree' items trees' head' rest' =>
          have text : writeItems [']'] (item :: second :: items) =
              writeLine [] item ++ ',' :: writeItems [']'] (second :: items) := by
            rw [writeItems_cons, writeLine_eq]
          rw [text, List.length_append, List.length_cons] at enough
          obtain ⟨left, read, skipped⟩ := head.read (by omega : _ ≤ fuel)
            (ends_comma ((writeItems [']'] (second :: items)).map some ++ after))
          rw [text, List.map_append, List.append_assoc, items?]
          change ((value? fuel ((writeLine [] item).map some ++ some ',' :: (_ ++ after))).bind _) = _
          rw [read]
          dsimp only [Option.bind_some]
          rw [skipped]
          change (items? fuel _).map _ = _
          rw [ih (List.cons_ne_nil _ _) (by omega)]
          rfl

theorem members?_written {members : List (String × Value)} {read : List (Contents × Tree)}
    (written : List.Forall₂ WrittenMember members read) (some_left : members ≠ []) {fuel : Nat}
    (enough : 2 * (writeMembers ['}'] members).length + 1 ≤ fuel) (after : Spelling) :
    members? fuel ((writeMembers ['}'] members).map some ++ after) = some (read, after) := by
  induction written generalizing fuel with
  | nil => exact absurd rfl some_left
  | @cons member member' members read head rest ih =>
      obtain ⟨fuel, rfl⟩ : ∃ n, fuel = n + 1 := ⟨fuel - 1, by omega⟩
      obtain ⟨key, value⟩ := member
      obtain ⟨_, tree⟩ := member'
      obtain ⟨rfl, head⟩ := head
      change Written value tree at head
      cases rest with
      | nil =>
          have text : writeMembers ['}'] [(key, value)] =
              writeString key ++ ':' :: (writeLine [] value ++ ['}']) := by
            rw [writeMembers, writeLine_eq]
          rw [text, List.length_append, List.length_cons, List.length_append,
            List.length_singleton] at enough
          obtain ⟨left, found, skipped⟩ := head.read (by omega : _ ≤ fuel) (ends_brace after)
          rw [text, List.map_append, List.append_assoc, members?, key?_writeString key (by omega)]
          change ((value? fuel (((writeLine [] value) ++ ['}']).map some ++ after)).bind _) = _
          rw [List.map_append, List.append_assoc]
          change ((value? fuel ((writeLine [] value).map some ++ some '}' :: after)).bind _) = _
          rw [found]
          dsimp only [Option.bind_some]
          rw [skipped]
          rfl
      | @cons second second' members read head' rest' =>
          have text : writeMembers ['}'] ((key, value) :: second :: members) = writeString key ++
              ':' :: (writeLine [] value ++ ',' :: writeMembers ['}'] (second :: members)) := by
            rw [writeMembers_cons, writeLine_eq]
          rw [text, List.length_append, List.length_cons, List.length_append,
            List.length_cons] at enough
          obtain ⟨left, found, skipped⟩ := head.read (by omega : _ ≤ fuel)
            (ends_comma ((writeMembers ['}'] (second :: members)).map some ++ after))
          rw [text, List.map_append, List.append_assoc, members?, key?_writeString key (by omega)]
          change ((value? fuel (((writeLine [] value) ++ ',' :: _).map some ++ after)).bind _) = _
          rw [List.map_append, List.append_assoc]
          change ((value? fuel ((writeLine [] value).map some ++ some ',' :: (_ ++ after))).bind _) = _
          rw [found]
          dsimp only [Option.bind_some]
          rw [skipped]
          change (members? fuel _).map _ = _
          rw [ih (List.cons_ne_nil _ _) (by omega)]
          rfl

theorem items?_skipSpace (fuel : Nat) (text : Spelling) :
    items? fuel (skipSpace text) = items? fuel text := by
  cases fuel with
  | zero => rfl
  | succ fuel =>
      cases fuel with
      | zero => rfl
      | succ fuel => rw [items?, items?, value?, value?, skipSpace_skipSpace]

/-- No item of an array begins with what closes it. -/
theorem items?_bracket (fuel : Nat) {text rest : Spelling} (closed : skipSpace text = some ']' :: rest) :
    items? fuel text = none := by
  cases fuel with
  | zero => rfl
  | succ fuel =>
      cases fuel with
      | zero => rfl
      | succ fuel =>
          rw [items?, value?_numeral fuel closed (by simp)]
          rfl

/-- **An array is read back** when its items are. -/
theorem written_array {values : List Value} {trees : List Tree}
    (written : List.Forall₂ Written values trees) : Written (.array values) (.array trees) := by
  intro fuel after enough ends
  obtain ⟨fuel, rfl⟩ : ∃ n, fuel = n + 1 := ⟨fuel - 1, by omega⟩
  refine ⟨after, ?_, skipSpace_of_ends ends⟩
  rw [writeLine, List.length_cons] at enough
  have opened : skipSpace ((writeLine [] (.array values)).map some ++ after) =
      some '[' :: ((writeItems [']'] values).map some ++ after) := by
    rw [writeLine]
    rfl
  rw [value?_bracket fuel opened]
  cases written with
  | nil => rfl
  | cons head rest =>
      have read := items?_written (.cons head rest) (List.cons_ne_nil _ _) (by omega : _ ≤ fuel) after
      split
      · rename_i closed
        rw [items?_bracket fuel closed] at read
        cases read
      · rw [items?_skipSpace, read]
        rfl

/-- The members of an object begin with the quote of a key. -/
theorem exists_writeMembers (member : String × Value) (rest : List (String × Value))
    (after : Spelling) :
    ∃ tail, (writeMembers ['}'] (member :: rest)).map some ++ after = some '"' :: tail := by
  obtain ⟨key, value⟩ := member
  cases rest with
  | nil => exact ⟨_, by rw [writeMembers, List.map_append, List.append_assoc, spell_writeString]⟩
  | cons second rest =>
      exact ⟨_, by rw [writeMembers_cons, List.map_append, List.append_assoc, spell_writeString]⟩

/-- **An object is read back** when its members are. -/
theorem written_object {members : List (String × Value)} {read : List (Contents × Tree)}
    (written : List.Forall₂ WrittenMember members read) :
    Written (.object members) (.object read) := by
  intro fuel after enough ends
  obtain ⟨fuel, rfl⟩ : ∃ n, fuel = n + 1 := ⟨fuel - 1, by omega⟩
  refine ⟨after, ?_, skipSpace_of_ends ends⟩
  rw [writeLine, List.length_cons] at enough
  have opened : skipSpace ((writeLine [] (.object members)).map some ++ after) =
      some '{' :: ((writeMembers ['}'] members).map some ++ after) := by
    rw [writeLine]
    rfl
  rw [value?_brace fuel opened]
  cases written with
  | nil => rfl
  | cons head rest =>
      have read := members?_written (.cons head rest) (List.cons_ne_nil _ _) (by omega : _ ≤ fuel) after
      obtain ⟨tail, opened⟩ := exists_writeMembers _ _ after
      rw [opened] at read ⊢
      change (members? fuel (some '"' :: tail)).map _ = _
      rw [read]
      rfl

end FlowAudit.Json
