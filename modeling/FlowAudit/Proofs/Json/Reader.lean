import FlowAudit.Json.Syntax
import Mathlib.Data.List.DropRight

/-!
# FlowAudit.Proofs.Json.Reader

**A text that is read is read the same inside a longer one.** What stands after a value begins with a
comma or a closing bracket (`Ends`). There the reader comes to the same value as at the end of the text,
and more steps than it needs change nothing (`readAlike`). So what is known of the text of a value
alone holds for it as an item of an array or a member of an object.
-/

namespace FlowAudit.Json

open FlowAudit.Number FlowAudit.Text

/-! ### What may follow a value -/

/-- The text ends here, or goes on with a comma or a closing bracket. -/
def Ends (after : Spelling) : Prop :=
  ∀ c, after.head? = some c → c = some ',' ∨ c = some ']' ∨ c = some '}'

theorem ends_nil : Ends [] := fun c head => by cases head

theorem ends_comma (rest : Spelling) : Ends (some ',' :: rest) :=
  fun _ head => Or.inl (Option.some.inj head).symm

theorem ends_bracket (rest : Spelling) : Ends (some ']' :: rest) :=
  fun _ head => Or.inr (Or.inl (Option.some.inj head).symm)

theorem ends_brace (rest : Spelling) : Ends (some '}' :: rest) :=
  fun _ head => Or.inr (Or.inr (Option.some.inj head).symm)

variable {after : Spelling}

/-- What follows a value begins with none of the characters that go on with one. -/
theorem Ends.head_ne (ends : Ends after) {c : Option Char} {rest : Spelling}
    (other : c ≠ some ',' ∧ c ≠ some ']' ∧ c ≠ some '}') : after ≠ c :: rest := by
  rintro rfl
  rcases ends c rfl with h | h | h
  · exact other.1 h
  · exact other.2.1 h
  · exact other.2.2 h

/-! ### Blanks and digits -/

/-- A text that is not all blanks loses the same blanks in a longer one. -/
theorem skipSpace_append {text : Spelling} (more : skipSpace text ≠ []) (after : Spelling) :
    skipSpace (text ++ after) = skipSpace text ++ after := by
  unfold skipSpace at more ⊢
  rw [List.dropWhile_append, if_neg (by simpa using more)]

theorem skipSpace_blank {text : Spelling} (blank : skipSpace text = []) (after : Spelling) :
    skipSpace (text ++ after) = skipSpace after := by
  unfold skipSpace at blank ⊢
  rw [List.dropWhile_append, if_pos (by simpa using blank)]

theorem skipSpace_skipSpace (text : Spelling) : skipSpace (skipSpace text) = skipSpace text :=
  List.dropWhile_idempotent _ _

theorem skipSpace_of_visible {c : Char} (visible : isSpace c = false) (text : Spelling) :
    skipSpace (some c :: text) = some c :: text := by
  simp [skipSpace, visible]

theorem skipSpace_of_ends (ends : Ends after) : skipSpace after = after := by
  cases after with
  | nil => rfl
  | cons c rest => rcases ends c rfl with rfl | rfl | rfl <;> rfl

theorem leadingDigits_cons {d : Char} (digit : isAsciiDigit d = true) (text : Spelling) :
    leadingDigits (some d :: text) = (d :: (leadingDigits text).1, (leadingDigits text).2) := by
  simp [leadingDigits, digit]

theorem leadingDigits_stop {c : Option Char} (other : c.any isAsciiDigit = false)
    (text : Spelling) : leadingDigits (c :: text) = ([], c :: text) := by
  simp [leadingDigits, other]

theorem leadingDigits_of_ends (ends : Ends after) : leadingDigits after = ([], after) := by
  cases after with
  | nil => rfl
  | cons c rest => rcases ends c rfl with rfl | rfl | rfl <;> rfl

/-- The digits at the beginning of a text end with it. -/
theorem leadingDigits_append (text : Spelling) (ends : Ends after) :
    leadingDigits (text ++ after) = ((leadingDigits text).1, (leadingDigits text).2 ++ after) := by
  induction text with
  | nil => exact leadingDigits_of_ends ends
  | cons c text ih =>
      cases digit : c.any isAsciiDigit with
      | false =>
          rw [List.cons_append, leadingDigits_stop digit, leadingDigits_stop digit]
          rfl
      | true =>
          cases c with
          | none => cases digit
          | some d => rw [List.cons_append, leadingDigits_cons digit, leadingDigits_cons digit, ih]

/-! ### Numerals and words -/

theorem powerDigits?_append {negative : Bool} {text rest : Spelling} {power : Int}
    (read : powerDigits? negative text = some (power, rest)) (ends : Ends after) :
    powerDigits? negative (text ++ after) = some (power, rest ++ after) := by
  unfold powerDigits? at read ⊢
  rw [leadingDigits_append text ends]
  dsimp only at read ⊢
  split at read
  · cases read
  · rename_i digits
    cases read
    rw [if_neg digits]

theorem exponent?_append {text rest : Spelling} {power : Int}
    (read : exponent? text = some (power, rest)) (ends : Ends after) :
    exponent? (text ++ after) = some (power, rest ++ after) := by
  cases text with
  | nil => cases read
  | cons c text =>
      by_cases minus : c = some '-'
      · subst minus
        exact powerDigits?_append read ends
      · by_cases plus : c = some '+'
        · subst plus
          exact powerDigits?_append read ends
        · have plain (text : Spelling) : exponent? (c :: text) = powerDigits? false (c :: text) := by
            simp [exponent?, minus, plus]
          rw [plain] at read
          rw [List.cons_append, plain]
          exact powerDigits?_append read ends

theorem fraction?_of_ends (ends : Ends after) :
    fraction? after = some ([], after) := by
  cases after with
  | nil => rfl
  | cons c after => rcases ends c rfl with rfl | rfl | rfl <;> rfl

theorem power?_of_ends (ends : Ends after) :
    power? after = some (none, after) := by
  cases after with
  | nil => rfl
  | cons c after => rcases ends c rfl with rfl | rfl | rfl <;> rfl

theorem fraction?_append {text rest : Spelling} {digits : List Char}
    (read : fraction? text = some (digits, rest)) (ends : Ends after) :
    fraction? (text ++ after) = some (digits, rest ++ after) := by
  cases text with
  | nil =>
      cases read
      exact fraction?_of_ends ends
  | cons c text =>
      by_cases point : c = some '.'
      · subst point
        rw [fraction?] at read
        rw [List.cons_append, fraction?, leadingDigits_append text ends]
        dsimp only at read ⊢
        split at read
        · cases read
        · rename_i digits
          cases read
          rw [if_neg digits]
      · have plain (text : Spelling) : fraction? (c :: text) = some ([], c :: text) := by
          simp [fraction?, point]
        rw [plain] at read
        cases read
        exact plain _

theorem power?_marked {c : Option Char} (mark : c = some 'e' ∨ c = some 'E') (text : Spelling) :
    power? (c :: text) = (exponent? text).map fun (power, rest) => (some power, rest) := by
  rcases mark with rfl | rfl <;> rfl

theorem power?_append {text rest : Spelling} {power : Option Int}
    (read : power? text = some (power, rest)) (ends : Ends after) :
    power? (text ++ after) = some (power, rest ++ after) := by
  cases text with
  | nil =>
      cases read
      exact power?_of_ends ends
  | cons c text =>
      by_cases exponent : c = some 'e' ∨ c = some 'E'
      · rw [power?_marked exponent] at read
        rw [List.cons_append, power?_marked exponent]
        obtain ⟨⟨value, left⟩, found, same⟩ := Option.map_eq_some_iff.mp read
        cases same
        rw [exponent?_append found ends]
        rfl
      · obtain ⟨small, capital⟩ := not_or.mp exponent
        have plain (text : Spelling) : power? (c :: text) = some (none, c :: text) := by
          simp [power?, small, capital]
        rw [plain] at read
        cases read
        exact plain _

theorem unsigned?_append {negative : Bool} {text rest : Spelling} {numeral : Numeral}
    (read : unsigned? negative text = some (numeral, rest)) (ends : Ends after) :
    unsigned? negative (text ++ after) = some (numeral, rest ++ after) := by
  unfold unsigned? at read ⊢
  rw [leadingDigits_append text ends]
  obtain ⟨_, allowed, read⟩ := Option.bind_eq_some_iff.mp read
  obtain ⟨⟨fraction, middle⟩, fractionRead, read⟩ := Option.bind_eq_some_iff.mp read
  obtain ⟨⟨power, last⟩, powerRead, same⟩ := Option.bind_eq_some_iff.mp read
  cases same
  refine Option.bind_eq_some_iff.mpr ⟨_, allowed, ?_⟩
  refine Option.bind_eq_some_iff.mpr ⟨_, fraction?_append fractionRead ends, ?_⟩
  exact Option.bind_eq_some_iff.mpr ⟨_, power?_append powerRead ends, rfl⟩

theorem numeral?_append {text rest : Spelling} {numeral : Numeral}
    (read : numeral? text = some (numeral, rest)) (ends : Ends after) :
    numeral? (text ++ after) = some (numeral, rest ++ after) := by
  cases text with
  | nil => cases read
  | cons c text =>
      by_cases minus : c = some '-'
      · subst minus
        exact unsigned?_append read ends
      · have plain (text : Spelling) : numeral? (c :: text) = unsigned? false (c :: text) := by
          simp [numeral?, minus]
        rw [plain] at read
        rw [List.cons_append, plain]
        exact unsigned?_append read ends

theorem expect?_append {word : List Char} {text rest : Spelling}
    (read : expect? word text = some rest) (after : Spelling) :
    expect? word (text ++ after) = some (rest ++ after) := by
  induction word generalizing text with
  | nil =>
      cases read
      rfl
  | cons c word ih =>
      cases text with
      | nil => cases read
      | cons d text =>
          cases d with
          | none => cases read
          | some d =>
              unfold expect? at read
              rw [List.cons_append, expect?]
              by_cases same : c = d
              · rw [if_pos same] at read ⊢
                exact ih read
              · rw [if_neg same] at read
                cases read

/-! ### Strings -/

theorem hexUnit?_append {text rest : Spelling} {unit : Nat}
    (read : hexUnit? text = some (unit, rest)) (after : Spelling) :
    hexUnit? (text ++ after) = some (unit, rest ++ after) := by
  unfold hexUnit? at read
  split at read
  · simp only [Option.bind_eq_bind, Option.bind_eq_some_iff] at read
    obtain ⟨a, first, b, second, c, third, d, fourth, same⟩ := read
    cases same
    simp [hexUnit?, first, second, third, fourth]
  · cases read

theorem unitEscape?_append {text rest : Spelling} {c : Option Char}
    (read : unitEscape? text = some (c, rest)) (ends : Ends after) :
    unitEscape? (text ++ after) = some (c, rest ++ after) := by
  obtain ⟨⟨unit, middle⟩, unitRead, found⟩ := Option.bind_eq_some_iff.mp read
  unfold unitEscape?
  rw [hexUnit?_append unitRead after]
  dsimp only [Option.bind_eq_bind, Option.bind_some] at found ⊢
  by_cases high : isHighHalf unit
  · rw [if_pos high] at found ⊢
    split at found
    · rename_i half
      obtain ⟨⟨second, last⟩, secondRead, found⟩ := Option.bind_eq_some_iff.mp found
      change (hexUnit? (half ++ after)).bind _ = _
      rw [hexUnit?_append secondRead after, Option.bind_some]
      split at found
      · rename_i low
        cases found
        rw [if_pos low]
        rfl
      · rename_i low
        cases found
        rw [if_neg low]
        rfl
    · rename_i alone
      cases found
      -- What follows the string does not go on with the second half of a pair.
      split
      · rename_i second together
        cases rest with
        | nil => exact absurd together (ends.head_ne (by decide))
        | cons x rest =>
            cases rest with
            | nil => exact absurd (List.cons.inj together).2 (ends.head_ne (by decide))
            | cons y rest =>
                cases together
                exact absurd rfl (alone _)
      · rfl
  · rw [if_neg high] at found ⊢
    split at found
    · rename_i low
      cases found
      rw [if_pos low]
      rfl
    · rename_i low
      cases found
      rw [if_neg low]
      rfl

theorem stringBody_escape {c : Char} (short : c ≠ 'u') (fuel : Nat) (text : Spelling) :
    stringBody (fuel + 1) (some '\\' :: some c :: text) =
      (escapeOf? c).bind fun d =>
        (stringBody fuel text).bind fun (tail, rest) => some (some d :: tail, rest) := by
  rw [stringBody]
  · rfl
  · simpa using short

theorem stringBody_plain {c : Option Char} (quote : c ≠ some '"') (backslash : c ≠ some '\\')
    (fuel : Nat) (text : Spelling) :
    stringBody (fuel + 1) (c :: text) =
      if c.any (·.toNat < 0x20) then none
      else (stringBody fuel text).bind fun (tail, rest) => some (c :: tail, rest) := by
  rw [stringBody]
  · rfl
  · exact quote
  · exact fun _ same _ => backslash same
  · exact fun _ _ same _ => backslash same
  · exact backslash

/-- The rest of a string is read the same before anything that may follow a value, with as many steps
or more. -/
theorem stringBody_append {fuel fuel' : Nat} (enough : fuel ≤ fuel') {text rest : Spelling}
    {contents : Contents} (read : stringBody fuel text = some (contents, rest))
    (ends : Ends after) : stringBody fuel' (text ++ after) = some (contents, rest ++ after) := by
  induction fuel generalizing fuel' text contents rest with
  | zero => cases read
  | succ fuel ih =>
      obtain ⟨fuel', rfl⟩ : ∃ n, fuel' = n + 1 := ⟨fuel' - 1, by omega⟩
      have le : fuel ≤ fuel' := Nat.le_of_succ_le_succ enough
      unfold stringBody at read
      split at read
      · cases read
      · cases read
        rfl
      · obtain ⟨⟨c, middle⟩, unitRead, read⟩ := Option.bind_eq_some_iff.mp read
        obtain ⟨⟨tail, last⟩, tailRead, same⟩ := Option.bind_eq_some_iff.mp read
        cases same
        rw [List.cons_append, List.cons_append, stringBody, unitEscape?_append unitRead ends]
        dsimp only [Option.bind_eq_bind, Option.bind_some]
        rw [ih le tailRead]
        rfl
      · rename_i c text short
        obtain ⟨d, escape, read⟩ := Option.bind_eq_some_iff.mp read
        obtain ⟨⟨tail, last⟩, tailRead, same⟩ := Option.bind_eq_some_iff.mp read
        cases same
        rw [List.cons_append, List.cons_append, stringBody_escape short, escape, Option.bind_some,
          ih le tailRead]
        rfl
      · cases read
      · rename_i c text quote unit escape backslash
        rw [List.cons_append, stringBody_plain quote backslash]
        split at read
        · cases read
        · rename_i visible
          obtain ⟨⟨tail, last⟩, tailRead, same⟩ := Option.bind_eq_some_iff.mp read
          cases same
          rw [if_neg visible, ih le tailRead]
          rfl

theorem key?_append {fuel fuel' : Nat} (enough : fuel ≤ fuel') {text rest : Spelling}
    {contents : Contents} (read : key? fuel text = some (contents, rest)) (ends : Ends after) :
    key? fuel' (text ++ after) = some (contents, rest ++ after) := by
  unfold key? at read ⊢
  split at read
  · rename_i opened
    rw [skipSpace_append (by simp [opened]) after, opened]
    exact stringBody_append enough read ends
  · cases read

/-! ### Values -/

theorem value?_nil (fuel : Nat) {text : Spelling} (blank : skipSpace text = []) :
    value? fuel text = none := by
  cases fuel with
  | zero => rfl
  | succ fuel => rw [value?, blank]

theorem items?_nil (fuel : Nat) {text : Spelling} (blank : skipSpace text = []) :
    items? fuel text = none := by
  cases fuel with
  | zero => rfl
  | succ fuel =>
      rw [items?, value?_nil fuel blank]
      rfl

theorem members?_nil (fuel : Nat) {text : Spelling} (blank : skipSpace text = []) :
    members? fuel text = none := by
  cases fuel with
  | zero => rfl
  | succ fuel =>
      rw [members?, key?, blank]
      rfl

/-- What opens none of the other values is read as a numeral. -/
theorem value?_numeral (fuel : Nat) {text tail : Spelling} {c : Option Char}
    (opened : skipSpace text = c :: tail)
    (plain : ∀ d ∈ ['n', 't', 'f', '"', '[', '{'], c ≠ some d) :
    value? (fuel + 1) text =
      (numeral? (c :: tail)).map fun (n, rest) => (.number n, rest) := by
  have excluded {d : Char} {rest : Spelling} (member : d ∈ ['n', 't', 'f', '"', '[', '{'])
      (same : c :: tail = some d :: rest) : False :=
    plain d member (List.cons.inj same).1
  rw [value?, opened]
  split
  · rename_i same
    cases same
  iterate 6
    · rename_i same
      exact (excluded (by decide) same).elim
  · rfl

theorem value?_bracket (fuel : Nat) {text tail : Spelling}
    (opened : skipSpace text = some '[' :: tail) :
    value? (fuel + 1) text =
      match skipSpace tail with
      | some ']' :: rest => some (.array [], rest)
      | rest => (items? fuel rest).map fun (items, rest) => (.array items, rest) := by
  rw [value?, opened]
  rfl

theorem value?_brace (fuel : Nat) {text tail : Spelling}
    (opened : skipSpace text = some '{' :: tail) :
    value? (fuel + 1) text =
      match skipSpace tail with
      | some '}' :: rest => some (.object [], rest)
      | rest => (members? fuel rest).map fun (members, rest) => (.object members, rest) := by
  rw [value?, opened]
  rfl

/-- The readers of values, items and members at once, for a number of steps. -/
structure ReadAlike (after : Spelling) (fuel fuel' : Nat) : Prop where
  value {text rest : Spelling} {tree : Tree} : value? fuel text = some (tree, rest) →
    value? fuel' (text ++ after) = some (tree, rest ++ after)
  items {text rest : Spelling} {trees : List Tree} : items? fuel text = some (trees, rest) →
    items? fuel' (text ++ after) = some (trees, rest ++ after)
  members {text rest : Spelling} {members : List (Contents × Tree)} :
    members? fuel text = some (members, rest) →
      members? fuel' (text ++ after) = some (members, rest ++ after)

section Step

variable {fuel fuel' : Nat} {text rest : Spelling}

/-- What is made of something that is read does not depend on what follows. -/
theorem map_append {α β : Type} {make : α → β} {read read' : Option (α × Spelling)} {made : β}
    (alike : ∀ a rest, read = some (a, rest) → read' = some (a, rest ++ after))
    (found : (read.map fun (a, rest) => (make a, rest)) = some (made, rest)) :
    (read'.map fun (a, rest) => (make a, rest)) = some (made, rest ++ after) := by
  obtain ⟨⟨a, left⟩, known, same⟩ := Option.map_eq_some_iff.mp found
  cases same
  rw [alike a rest known]
  rfl

theorem word_append {word : List Char} {value tree : Tree}
    (found : (expect? word text).map (value, ·) = some (tree, rest)) :
    (expect? word (text ++ after)).map (value, ·) = some (tree, rest ++ after) := by
  obtain ⟨left, known, same⟩ := Option.map_eq_some_iff.mp found
  cases same
  rw [expect?_append known after]
  rfl

/-- A text that is not empty begins alike in a longer one. -/
theorem cons_of_append_eq_cons {c : Option Char} (some_left : text ≠ [])
    (opens : text ++ after = c :: rest) : ∃ tail, text = c :: tail := by
  cases text with
  | nil => exact absurd rfl some_left
  | cons d tail => exact ⟨tail, by rw [(List.cons.inj opens).1]⟩

theorem ReadAlike.value_succ (h : ReadAlike after fuel fuel') (enough : fuel ≤ fuel')
    (ends : Ends after) {tree : Tree} (read : value? (fuel + 1) text = some (tree, rest)) :
    value? (fuel' + 1) (text ++ after) = some (tree, rest ++ after) := by
  have some_left : skipSpace text ≠ [] := by
    intro blank
    rw [value?_nil _ blank] at read
    cases read
  have longer := skipSpace_append some_left after
  unfold value? at read
  split at read
  · cases read
  · rename_i opened
    rw [value?, longer, opened]
    exact word_append read
  · rename_i opened
    rw [value?, longer, opened]
    exact word_append read
  · rename_i opened
    rw [value?, longer, opened]
    exact word_append read
  · rename_i opened
    rw [value?, longer, opened]
    exact map_append (fun _ _ known => stringBody_append enough known ends) read
  · rename_i tail opened
    rw [opened, List.cons_append] at longer
    rw [value?_bracket fuel' longer]
    split at read
    · rename_i closed
      rw [skipSpace_append (by simp [closed]) after, closed]
      cases read
      rfl
    · rename_i items_left
      -- An item comes first, and the longer text begins with it as well.
      have some_left : skipSpace tail ≠ [] := by
        intro blank
        rw [blank, items?_nil fuel rfl] at read
        cases read
      rw [skipSpace_append some_left after]
      split
      · rename_i closed
        obtain ⟨_, closed⟩ := cons_of_append_eq_cons some_left closed
        exact absurd closed (items_left _)
      · exact map_append (fun _ _ known => h.items known) read
  · rename_i tail opened
    rw [opened, List.cons_append] at longer
    rw [value?_brace fuel' longer]
    split at read
    · rename_i closed
      rw [skipSpace_append (by simp [closed]) after, closed]
      cases read
      rfl
    · rename_i members_left
      have some_left : skipSpace tail ≠ [] := by
        intro blank
        rw [blank, members?_nil fuel rfl] at read
        cases read
      rw [skipSpace_append some_left after]
      split
      · rename_i closed
        obtain ⟨_, closed⟩ := cons_of_append_eq_cons some_left closed
        exact absurd closed (members_left _)
      · exact map_append (fun _ _ known => h.members known) read
  · rename_i blank null true_ false_ quote bracket brace
    cases opened : skipSpace text with
    | nil => exact absurd opened some_left
    | cons c tail =>
        rw [opened] at longer read
        have plain : ∀ d ∈ ['n', 't', 'f', '"', '[', '{'], c ≠ some d := by
          rintro d member rfl
          simp only [List.mem_cons, List.not_mem_nil, or_false] at member
          rcases member with rfl | rfl | rfl | rfl | rfl | rfl
          · exact null _ opened
          · exact true_ _ opened
          · exact false_ _ opened
          · exact quote _ opened
          · exact bracket _ opened
          · exact brace _ opened
        rw [value?_numeral fuel' longer plain]
        exact map_append (fun _ _ known => numeral?_append known ends) read

theorem ReadAlike.items_succ (h : ReadAlike after fuel fuel') {trees : List Tree}
    (read : items? (fuel + 1) text = some (trees, rest)) :
    items? (fuel' + 1) (text ++ after) = some (trees, rest ++ after) := by
  obtain ⟨⟨item, middle⟩, itemRead, read⟩ := Option.bind_eq_some_iff.mp read
  rw [items?, h.value itemRead]
  dsimp only [Option.bind_eq_bind, Option.bind_some] at read ⊢
  split at read
  · rename_i comma
    rw [skipSpace_append (by simp [comma]) after, comma]
    exact map_append (fun _ _ known => h.items known) read
  · rename_i closed
    rw [skipSpace_append (by simp [closed]) after, closed]
    cases read
    rfl
  · cases read

theorem ReadAlike.members_succ (h : ReadAlike after fuel fuel') (enough : fuel ≤ fuel')
    (ends : Ends after) {members : List (Contents × Tree)}
    (read : members? (fuel + 1) text = some (members, rest)) :
    members? (fuel' + 1) (text ++ after) = some (members, rest ++ after) := by
  obtain ⟨⟨key, colon⟩, keyRead, read⟩ := Option.bind_eq_some_iff.mp read
  obtain ⟨start, colonRead, read⟩ := Option.bind_eq_some_iff.mp read
  obtain ⟨⟨value, middle⟩, valueRead, read⟩ := Option.bind_eq_some_iff.mp read
  have some_left : skipSpace colon ≠ [] := by
    intro blank
    rw [blank] at colonRead
    cases colonRead
  rw [members?, key?_append enough keyRead ends]
  dsimp only [Option.bind_eq_bind, Option.bind_some] at read ⊢
  rw [skipSpace_append some_left after, expect?_append colonRead after, Option.bind_some,
    h.value valueRead, Option.bind_some]
  dsimp only
  split at read
  · rename_i comma
    rw [skipSpace_append (by simp [comma]) after, comma]
    exact map_append (fun _ _ known => h.members known) read
  · rename_i closed
    rw [skipSpace_append (by simp [closed]) after, closed]
    cases read
    rfl
  · cases read

end Step

/-- **A value is read the same before anything that may follow it**, with as many steps or more. -/
theorem readAlike {fuel fuel' : Nat} (enough : fuel ≤ fuel') (ends : Ends after) :
    ReadAlike after fuel fuel' := by
  -- Values, items and members are read by way of each other, with one step fewer each time.
  induction fuel generalizing fuel' with
  | zero =>
      constructor
      · intro _ _ _ read
        cases read
      · intro _ _ _ read
        cases read
      · intro _ _ _ read
        cases read
  | succ fuel ih =>
      obtain ⟨fuel', rfl⟩ : ∃ n, fuel' = n + 1 := ⟨fuel' - 1, by omega⟩
      have le : fuel ≤ fuel' := Nat.le_of_succ_le_succ enough
      exact ⟨(ih le).value_succ le ends, (ih le).items_succ, (ih le).members_succ le ends⟩

end FlowAudit.Json
