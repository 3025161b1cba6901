import FlowAudit.Rule.BareReturn

/-!
# FlowAudit.Proofs.Rule.BareReturn

**Which bare returns of a line are read.** What a bare return is can be said of a place in a line of
code and what stands around it (`IsBareReturn`). Reading does not come upon all of these places: it goes
from left to right and on after the character that ends a return, so it passes over a return that begins
with that same character. A bare return is read if and only if none that is read ends where it begins
(`mem_bareReturns_iff`); so of returns that abut one another it is every other one (`mem_bareReturns`).

The two ends of a return are numbers, and what is read from some place on is said of these numbers
(`Finds`). The induction along the line then only has to know that returns do not overlap
(`IsBareReturn.closing_le`) and that no two begin after the same character
(`IsBareReturn.eq_of_opening_eq`).
-/

namespace FlowAudit.Rule

open FlowAudit.Text FlowAudit.Source

/-! ### Bare returns and their ends -/

/-- The word stands at an offset of a line of code. Blanks aside, the line begins before it or a
character after which a statement begins stands there; and a semicolon or a closing brace stands after
it, or the line ends. -/
structure IsBareReturn (code : List Char) (offset : Nat) : Prop where
  word : "return".toList <+: code.drop offset
  opens : ∀ c ∈ (trimEnd (code.take offset)).getLast?, c = ';' ∨ c = '{' ∨ c = '}'
  ends : ∀ c ∈ (trimStart (code.drop (offset + 6))).head?, c = ';' ∨ c = '}'

instance (code : List Char) (offset : Nat) : Decidable (IsBareReturn code offset) :=
  decidable_of_iff
    (("return".toList.isPrefixOf (code.drop offset) &&
      (trimEnd (code.take offset)).getLast?.all (fun c => c == ';' || c == '{' || c == '}') &&
      (trimStart (code.drop (offset + 6))).head?.all fun c => c == ';' || c == '}') = true) (by
    rw [Bool.and_eq_true, Bool.and_eq_true, List.isPrefixOf_iff_prefix, Option.all_eq_true,
      Option.all_eq_true]
    simp only [Bool.or_eq_true, beq_iff_eq, or_assoc]
    exact ⟨fun h => ⟨h.1.1, h.1.2, h.2⟩, fun h => ⟨⟨h.word, h.opens⟩, h.ends⟩⟩)

/-- How much of a line there is up to the character that a return follows, and with it. -/
def opening (code : List Char) (offset : Nat) : Nat :=
  (trimEnd (code.take offset)).length

/-- How much of a line there is up to the character that ends a return, and with it. -/
def closing (code : List Char) (offset : Nat) : Nat :=
  code.length - (trimStart (code.drop (offset + 6))).tail.length

/-- The character that ends the return at one offset is the one that the return at another follows. -/
def Abuts (code : List Char) (offset next : Nat) : Prop :=
  closing code offset = opening code next

instance (code : List Char) (offset next : Nat) : Decidable (Abuts code offset next) :=
  inferInstanceAs (Decidable (_ = _))

/-- A bare return that the rule looks at: one that abuts no other bare return, or after such a one every
second of those that abut each other. -/
inductive Visited (code : List Char) : Nat → Prop
  | first {offset : Nat} (bare : IsBareReturn code offset)
      (clear : ∀ before, IsBareReturn code before → ¬ Abuts code before offset) :
      Visited code offset
  | second {offset next later : Nat} (visited : Visited code offset)
      (passed : IsBareReturn code next) (abuts : Abuts code offset next)
      (bare : IsBareReturn code later) (abuts' : Abuts code next later) : Visited code later

/-! ### Blanks -/

section Blanks

variable {text blanks rest : List Char}

theorem opensStatement_iff {c : Char} :
    opensStatement c = true ↔ c = ';' ∨ c = '{' ∨ c = '}' := by
  simp [opensStatement, or_assoc]

theorem isBlank_of_opens {c : Char} (opens : c = ';' ∨ c = '{' ∨ c = '}') : isBlank c = false := by
  rcases opens with rfl | rfl | rfl <;> decide

theorem isBlank_of_ends {c : Char} (ends : c = ';' ∨ c = '}') : isBlank c = false := by
  rcases ends with rfl | rfl <;> decide

theorem trimStart_append (blank : allBlank blanks = true)
    (visible : ∀ c ∈ rest.head?, isBlank c = false) : trimStart (blanks ++ rest) = rest := by
  rw [trimStart, List.dropWhile_append_of_pos (List.all_eq_true.mp blank)]
  cases rest with
  | nil => rfl
  | cons c rest => rw [List.dropWhile_cons_of_neg (by simp [visible c rfl])]

theorem trimEnd_append (blank : allBlank blanks = true)
    (visible : ∀ c ∈ text.getLast?, isBlank c = false) : trimEnd (text ++ blanks) = text := by
  have reversed : trimStart (blanks.reverse ++ text.reverse) = text.reverse := by
    refine trimStart_append (by simpa [allBlank] using blank) fun c member => ?_
    rw [List.head?_reverse] at member
    exact visible c member
  rw [trimEnd, List.reverse_append]
  unfold trimStart at reversed
  rw [reversed, List.reverse_reverse]

theorem exists_blanks_trimStart (text : List Char) :
    ∃ blanks, allBlank blanks = true ∧ text = blanks ++ trimStart text :=
  ⟨text.takeWhile isBlank, List.all_takeWhile, List.takeWhile_append_dropWhile.symm⟩

theorem exists_trimEnd_blanks (text : List Char) :
    ∃ blanks, allBlank blanks = true ∧ text = trimEnd text ++ blanks := by
  obtain ⟨blanks, blank, cut⟩ := exists_blanks_trimStart text.reverse
  refine ⟨blanks.reverse, by simpa [allBlank] using blank, ?_⟩
  have reversed := congrArg List.reverse cut
  rwa [List.reverse_reverse, List.reverse_append] at reversed

theorem afterPrefix?_eq_some {start text rest : List Char} :
    afterPrefix? start text = some rest ↔ text = start ++ rest := by
  induction start generalizing text with
  | nil =>
      rw [afterPrefix?, Option.some.injEq, List.nil_append]
  | cons p ps ih =>
      cases text with
      | nil => simp [afterPrefix?]
      | cons c text =>
          rw [afterPrefix?, List.cons_append, List.cons.injEq]
          by_cases same : p = c
          · rw [if_pos same, ih]
            exact ⟨fun h => ⟨same.symm, h⟩, fun h => h.2⟩
          · rw [if_neg same]
            exact ⟨nofun, fun h => absurd h.1.symm same⟩

end Blanks

/-! ### A line around a bare return -/

/-- A line of code, cut where a bare return follows what comes before, around the word and its blanks,
and before the character that ends it. -/
structure Around (code start blanks more rest : List Char) : Prop where
  cut : code = start ++ (blanks ++ ("return".toList ++ (more ++ rest)))
  before : allBlank blanks = true
  after : allBlank more = true
  opens : ∀ c ∈ start.getLast?, c = ';' ∨ c = '{' ∨ c = '}'
  ends : ∀ c ∈ rest.head?, c = ';' ∨ c = '}'

section Place

variable {code start blanks more rest : List Char} {offset next : Nat}

theorem IsBareReturn.around (bare : IsBareReturn code offset) :
    ∃ blanks more,
      Around code (trimEnd (code.take offset)) blanks more (trimStart (code.drop (offset + 6))) ∧
        offset = opening code offset + blanks.length := by
  obtain ⟨blanks, before, cutBefore⟩ := exists_trimEnd_blanks (code.take offset)
  obtain ⟨more, after, cutAfter⟩ := exists_blanks_trimStart (code.drop (offset + 6))
  obtain ⟨following, word⟩ := bare.word
  have following_eq : following = code.drop (offset + 6) := by
    rw [← List.drop_drop, ← word]
    rfl
  have within : offset ≤ code.length := by
    have length := congrArg List.length word
    simp only [List.length_append, List.length_drop] at length
    have : "return".toList.length = 6 := rfl
    omega
  have length := congrArg List.length cutBefore
  rw [List.length_take, Nat.min_eq_left within, List.length_append] at length
  refine ⟨blanks, more, ⟨?_, before, after, bare.opens, bare.ends⟩, length⟩
  rw [← cutAfter, ← following_eq, word, ← List.append_assoc, ← cutBefore, List.take_append_drop]

namespace Around

variable (around : Around code start blanks more rest)
include around

theorem take_eq : code.take (start.length + blanks.length) = start ++ blanks := by
  rw [around.cut, ← List.append_assoc, List.take_left' (by rw [List.length_append])]

theorem drop_eq : code.drop (start.length + blanks.length) = "return".toList ++ (more ++ rest) := by
  rw [around.cut, ← List.append_assoc, List.drop_left' (by rw [List.length_append])]

theorem trimEnd_take : trimEnd (code.take (start.length + blanks.length)) = start := by
  rw [around.take_eq]
  exact trimEnd_append around.before fun c last => isBlank_of_opens (around.opens c last)

theorem trimStart_drop : trimStart (code.drop (start.length + blanks.length + 6)) = rest := by
  have following : code.drop (start.length + blanks.length + 6) = more ++ rest := by
    rw [← List.drop_drop, around.drop_eq]
    rfl
  rw [following]
  exact trimStart_append around.after fun c head => isBlank_of_ends (around.ends c head)

theorem isBareReturn : IsBareReturn code (start.length + blanks.length) where
  word := ⟨more ++ rest, around.drop_eq.symm⟩
  opens := by
    rw [around.trimEnd_take]
    exact around.opens
  ends := by
    rw [around.trimStart_drop]
    exact around.ends

theorem opening_eq : opening code (start.length + blanks.length) = start.length := by
  rw [opening, around.trimEnd_take]

theorem closing_eq :
    closing code (start.length + blanks.length) = code.length - rest.tail.length := by
  rw [closing, around.trimStart_drop]

theorem length_eq :
    code.length = start.length + blanks.length + 6 + more.length + rest.length := by
  have length := congrArg List.length around.cut
  simp only [List.length_append] at length
  have : "return".toList.length = 6 := rfl
  omega

/-- Between the character that a return follows and the one that ends it no statement begins. -/
theorem not_opens {index : Nat} {c : Char} (from_start : start.length ≤ index)
    (short : index + rest.length < code.length) (found : code[index]? = some c) :
    ¬ (c = ';' ∨ c = '{' ∨ c = '}') := by
  have length := around.length_eq
  intro opens
  have visible := isBlank_of_opens opens
  rw [around.cut, List.getElem?_append_right from_start] at found
  rcases Nat.lt_or_ge (index - start.length) blanks.length with early | late
  · rw [List.getElem?_append_left early] at found
    have blank := List.all_eq_true.mp around.before c (List.mem_of_getElem? found)
    rw [visible] at blank
    cases blank
  · rw [List.getElem?_append_right late] at found
    rcases Nat.lt_or_ge (index - start.length - blanks.length) 6 with early | late
    · rw [List.getElem?_append_left early] at found
      have letter := List.mem_of_getElem? found
      rcases opens with rfl | rfl | rfl <;> exact absurd letter (by decide)
    · rw [List.getElem?_append_right late, List.getElem?_append_left
        (by show index - start.length - blanks.length - 6 < more.length; omega)] at found
      have blank := List.all_eq_true.mp around.after c (List.mem_of_getElem? found)
      rw [visible] at blank
      cases blank

end Around

namespace IsBareReturn

theorem opening_le (bare : IsBareReturn code offset) : opening code offset ≤ offset := by
  obtain ⟨blanks, -, -, place⟩ := bare.around
  omega

theorem lt_closing (bare : IsBareReturn code offset) : offset < closing code offset := by
  obtain ⟨blanks, more, around, place⟩ := bare.around
  have length := around.length_eq
  have tail := List.length_tail (l := trimStart (code.drop (offset + 6)))
  unfold closing
  change offset = (trimEnd (code.take offset)).length + blanks.length at place
  omega

theorem opening_lt_closing (bare : IsBareReturn code offset) :
    opening code offset < closing code offset :=
  Nat.lt_of_le_of_lt bare.opening_le bare.lt_closing

theorem lt_of_abuts (bare : IsBareReturn code offset) (bare' : IsBareReturn code next)
    (abuts : Abuts code offset next) : offset < next :=
  Nat.lt_of_lt_of_le bare.lt_closing (Nat.le_trans (Nat.le_of_eq abuts) bare'.opening_le)

/-- Blanks aside, the return is what comes after the character that it follows. -/
theorem trimStart_drop_opening (bare : IsBareReturn code offset) :
    trimStart (code.drop (opening code offset)) = code.drop offset := by
  obtain ⟨blanks, more, around, place⟩ := bare.around
  have word := around.drop_eq
  change code.drop (opening code offset + blanks.length) = _ at word
  rw [← place] at word
  have following : code.drop (opening code offset) = blanks ++ code.drop offset := by
    rw [word]
    exact (congrArg (List.drop (opening code offset)) around.cut).trans (List.drop_left' rfl)
  rw [following]
  refine trimStart_append around.before fun c head => ?_
  rw [word] at head
  cases head
  decide

/-- After one character at most one return begins. -/
theorem eq_of_opening_eq (bare : IsBareReturn code offset) (bare' : IsBareReturn code next)
    (same : opening code offset = opening code next) : offset = next := by
  have dropped : code.drop offset = code.drop next := by
    rw [← bare.trimStart_drop_opening, ← bare'.trimStart_drop_opening, same]
  have length := congrArg List.length dropped
  rw [List.length_drop, List.length_drop] at length
  have within := bare.lt_closing
  have within' := bare'.lt_closing
  unfold closing at within within'
  omega

/-- Of two returns, the one ends before the other begins, or with the character that it follows. -/
theorem closing_le (bare : IsBareReturn code offset) (bare' : IsBareReturn code next)
    (earlier : opening code offset < opening code next) :
    closing code offset ≤ opening code next := by
  refine Nat.le_of_not_lt fun inside => ?_
  -- The character that the other return follows would stand inside this one.
  obtain ⟨blanks, more, around, -⟩ := bare.around
  obtain ⟨blanks', more', around', -⟩ := bare'.around
  have last : opening code next - 1 < (trimEnd (code.take next)).length := by
    show opening code next - 1 < opening code next
    omega
  have found := List.prefix_iff_getElem?.mp ⟨_, around'.cut.symm⟩ _ last
  have short : opening code next - 1 + (trimStart (code.drop (offset + 6))).length < code.length := by
    have length := around.length_eq
    have tail := List.length_tail (l := trimStart (code.drop (offset + 6)))
    unfold closing at inside
    omega
  refine around.not_opens (Nat.le_sub_one_of_lt earlier) short found (around'.opens _ ?_)
  rw [List.getLast?_eq_getElem?]
  exact List.getElem?_eq_getElem last

end IsBareReturn

end Place

/-! ### Reading a line -/

section Reading

variable {code text : List Char} {length lead offset next bound : Nat} {found : List Nat}

/-- Where a return is read, the line can be cut around it. -/
theorem exists_around_of_bareReturnAt? {start : List Char}
    (opens : ∀ c ∈ start.getLast?, c = ';' ∨ c = '{' ∨ c = '}')
    (read : bareReturnAt? text = some (length, lead)) :
    ∃ blanks more rest, Around (start ++ text) start blanks more rest ∧ blanks.length = lead ∧
      length = text.length - rest.tail.length := by
  obtain ⟨blanks, before, cutBefore⟩ := exists_blanks_trimStart text
  have leading : text.length - (trimStart text).length = blanks.length := by
    have := congrArg List.length cutBefore
    rw [List.length_append] at this
    omega
  unfold bareReturnAt? at read
  cases word : afterPrefix? "return".toList (trimStart text) with
  | none =>
      simp only [word, reduceCtorEq] at read
  | some following =>
      simp only [word, leading] at read
      obtain ⟨more, after, cutAfter⟩ := exists_blanks_trimStart following
      refine ⟨blanks, more, trimStart following, ⟨?_, before, after, opens, ?_⟩, ?_⟩
      · rw [← cutAfter, ← afterPrefix?_eq_some.mp word, ← cutBefore]
      · intro d head
        cases rest : trimStart following with
        | nil =>
            rw [rest] at head
            cases head
        | cons c after =>
            rw [rest] at head read
            cases head
            by_cases ends : d = ';' ∨ d = '}'
            · exact ends
            · simp only [Bool.or_eq_true, decide_eq_true_eq, if_neg ends, reduceCtorEq] at read
      · cases rest : trimStart following with
        | nil =>
            rw [rest] at read
            cases read
            exact ⟨rfl, rfl⟩
        | cons c after =>
            simp only [rest] at read
            split at read
            · cases read
              exact ⟨rfl, rfl⟩
            · cases read

/-- What is read as a return is one, of the line with whatever comes before. -/
theorem isBareReturn_of_bareReturnAt? (start : List Char)
    (opens : ∀ c ∈ start.getLast?, c = ';' ∨ c = '{' ∨ c = '}')
    (read : bareReturnAt? text = some (length, lead)) :
    IsBareReturn (start ++ text) (start.length + lead) ∧
      opening (start ++ text) (start.length + lead) = start.length ∧
        closing (start ++ text) (start.length + lead) = start.length + length := by
  obtain ⟨blanks, more, rest, around, rfl, rfl⟩ := exists_around_of_bareReturnAt? opens read
  refine ⟨around.isBareReturn, around.opening_eq, around.closing_eq.trans ?_⟩
  have total := around.length_eq
  have tail := List.length_tail (l := rest)
  rw [List.length_append] at total ⊢
  omega

/-- A return is read where it begins. -/
theorem IsBareReturn.bareReturnAt?_ne_none (start : List Char)
    (bare : IsBareReturn (start ++ text) offset)
    (here : opening (start ++ text) offset = start.length) :
    (∀ c ∈ start.getLast?, c = ';' ∨ c = '{' ∨ c = '}') ∧ bareReturnAt? text ≠ none := by
  obtain ⟨blanks, more, around, -⟩ := bare.around
  generalize trimStart ((start ++ text).drop (offset + 6)) = tail at around
  obtain ⟨same, rest⟩ := List.append_inj around.cut here.symm
  refine ⟨fun c last => around.opens c (same ▸ last), ?_⟩
  have trimmed : trimStart text = "return".toList ++ (more ++ tail) := by
    rw [rest]
    refine trimStart_append around.before fun c head => ?_
    cases head
    decide
  have word := afterPrefix?_eq_some.mpr trimmed
  have following := trimStart_append around.after fun c head => isBlank_of_ends (around.ends c head)
  unfold bareReturnAt?
  simp only [word, following]
  cases tail with
  | nil => exact nofun
  | cons c after =>
      have ends := around.ends c rfl
      simp only [Bool.or_eq_true, decide_eq_true_eq, if_pos ends]
      exact nofun

/-- The offsets that reading finds from some place on: those of the bare returns that begin there or
later and abut none that is found. -/
def Finds (code : List Char) (bound : Nat) (found : List Nat) : Prop :=
  ∀ offset, offset ∈ found ↔ IsBareReturn code offset ∧ bound ≤ opening code offset ∧
    ∀ before ∈ found, ¬ Abuts code before offset

namespace Finds

/-- Where no return begins, reading goes on. -/
theorem pass (rest : Finds code (bound + 1) found)
    (nothing : ∀ offset, IsBareReturn code offset → opening code offset ≠ bound) :
    Finds code bound found := by
  intro offset
  rw [rest offset]
  refine and_congr_right fun bare => and_congr_left fun _ => ?_
  have := nothing offset bare
  omega

/-- After a return, reading goes on behind the character that ends it. -/
theorem cons (bare : IsBareReturn code offset)
    (rest : Finds code (closing code offset + 1) found) :
    Finds code (opening code offset) (offset :: found) := by
  have ahead := bare.opening_lt_closing
  intro other
  rw [List.mem_cons, List.forall_mem_cons]
  constructor
  · rintro (rfl | later)
    · refine ⟨bare, Nat.le_refl _, Nat.ne_of_gt ahead, fun before member abuts => ?_⟩
      obtain ⟨bare', after, -⟩ := (rest before).mp member
      have := bare'.opening_lt_closing
      unfold Abuts at abuts
      omega
    · obtain ⟨bare', after, clear⟩ := (rest other).mp later
      exact ⟨bare', by omega, Nat.ne_of_lt after, clear⟩
  · rintro ⟨bare', after, apart, clear⟩
    rcases Nat.lt_or_eq_of_le after with later | same
    · have := bare.closing_le bare' later
      have : closing code offset ≠ opening code other := apart
      exact Or.inr ((rest other).mpr ⟨bare', by omega, clear⟩)
    · exact Or.inl (bare.eq_of_opening_eq bare' same).symm

/-- Where a return is read, it is found, and reading goes on behind it. -/
theorem of_read (start : List Char) (opens : ∀ c ∈ start.getLast?, c = ';' ∨ c = '{' ∨ c = '}')
    (read : bareReturnAt? text = some (length, lead))
    (rest : Finds (start ++ text) (start.length + length + 1) found) :
    Finds (start ++ text) start.length ((start.length + lead) :: found) := by
  obtain ⟨bare, opened, closed⟩ := isBareReturn_of_bareReturnAt? start opens read
  rw [← closed] at rest
  have found := Finds.cons bare rest
  rwa [opened] at found

end Finds

/-- Reading on from a place finds what begins after the characters that are still to be passed over. -/
theorem finds_bareReturnsFrom (start text : List Char) (skip : Nat) :
    Finds (start ++ text) (start.length + skip + 1) (bareReturnsFrom skip start.length text) := by
  induction text generalizing start skip with
  | nil =>
      intro offset
      refine ⟨nofun, fun ⟨bare, after, _⟩ => ?_⟩
      have := bare.opening_le
      have := bare.lt_closing
      unfold closing at this
      rw [List.append_nil] at *
      omega
  | cons c rest ih =>
      have moved (skip : Nat) : Finds (start ++ c :: rest) (start.length + 1 + skip + 1)
          (bareReturnsFrom skip (start.length + 1) rest) := by
        have later := ih (start ++ [c]) skip
        rwa [List.append_assoc, List.singleton_append, List.length_append, List.length_singleton]
          at later
      cases skip with
      | succ n =>
          have later := moved n
          rwa [Nat.add_assoc start.length 1 n, Nat.add_comm 1 n] at later
      | zero =>
          have split : start ++ c :: rest = (start ++ [c]) ++ rest := by
            rw [List.append_assoc, List.singleton_append]
          have size : (start ++ [c]).length = start.length + 1 := by
            rw [List.length_append, List.length_singleton]
          rw [bareReturnsFrom]
          cases read : if opensStatement c then bareReturnAt? rest else none with
          | none =>
              refine (moved 0).pass fun offset bare here => ?_
              rw [split] at bare here
              obtain ⟨opens, reads⟩ := bare.bareReturnAt?_ne_none (start ++ [c]) (here.trans size.symm)
              have opens : opensStatement c = true :=
                opensStatement_iff.mpr (opens c (by rw [List.getLast?_concat]; rfl))
              rw [if_pos opens] at read
              exact reads read
          | some span =>
              obtain ⟨length, lead⟩ := span
              have opens : opensStatement c = true := by
                cases opens : opensStatement c with
                | true => rfl
                | false =>
                    rw [opens] at read
                    cases read
              rw [if_pos opens] at read
              have last : ∀ d ∈ (start ++ [c]).getLast?, d = ';' ∨ d = '{' ∨ d = '}' := by
                intro d member
                rw [List.getLast?_concat] at member
                cases member
                exact opensStatement_iff.mp opens
              have found := Finds.of_read (start ++ [c]) last read
                (by rw [← split, size]; exact moved length)
              rwa [← split, size] at found

/-- **What is read**: the bare returns that abut none that is read. -/
theorem mem_bareReturns_iff : offset ∈ bareReturns code ↔
    IsBareReturn code offset ∧ ∀ before ∈ bareReturns code, ¬ Abuts code before offset := by
  have found : Finds code 0 (bareReturns code) := by
    unfold bareReturns
    cases read : bareReturnAt? code with
    | none =>
        refine (finds_bareReturnsFrom [] code 0).pass fun offset bare here => ?_
        exact (IsBareReturn.bareReturnAt?_ne_none [] bare here).2 read
    | some span =>
        obtain ⟨length, lead⟩ := span
        have found := Finds.of_read [] nofun read (finds_bareReturnsFrom [] code length)
        rwa [List.nil_append, List.length_nil, Nat.zero_add] at found
  rw [found offset]
  exact and_congr_right fun _ => and_iff_right (Nat.zero_le _)

/-- At most one return ends with the character that another one follows. -/
theorem IsBareReturn.eq_of_abuts (bare : IsBareReturn code offset) (bare' : IsBareReturn code next)
    {later : Nat} (abuts : Abuts code offset later) (abuts' : Abuts code next later) :
    offset = next := by
  have same : closing code offset = closing code next := abuts.trans abuts'.symm
  have := bare.opening_lt_closing
  have := bare'.opening_lt_closing
  refine bare.eq_of_opening_eq bare' ?_
  rcases Nat.lt_trichotomy (opening code offset) (opening code next) with earlier | same | later
  · have := bare.closing_le bare' earlier
    omega
  · exact same
  · have := bare'.closing_le bare later
    omega

theorem Visited.isBareReturn (visited : Visited code offset) : IsBareReturn code offset := by
  cases visited with
  | first bare _ => exact bare
  | second _ _ _ bare _ => exact bare

/-- **Of returns that abut one another, every other one is read.** -/
theorem mem_bareReturns : offset ∈ bareReturns code ↔ Visited code offset := by
  constructor
  · induction offset using Nat.strongRecOn with
    | ind offset ih =>
        intro member
        obtain ⟨bare, clear⟩ := mem_bareReturns_iff.mp member
        by_cases alone : ∀ before, IsBareReturn code before → ¬ Abuts code before offset
        · exact .first bare alone
        · -- The return right before is not read, so it abuts one that is.
          obtain ⟨next, passed, abuts⟩ : ∃ next, IsBareReturn code next ∧ Abuts code next offset := by
            simpa using alone
          have unread : next ∉ bareReturns code := fun read => clear next read abuts
          rw [mem_bareReturns_iff] at unread
          obtain ⟨first, read, abuts'⟩ : ∃ first ∈ bareReturns code, Abuts code first next := by
            simpa [passed] using unread
          have earlier : first < offset :=
            Nat.lt_trans ((mem_bareReturns_iff.mp read).1.lt_of_abuts passed abuts')
              (passed.lt_of_abuts bare abuts)
          exact .second (ih first earlier read) passed abuts' bare abuts
  · intro visited
    induction visited with
    | first bare clear =>
        exact mem_bareReturns_iff.mpr
          ⟨bare, fun before member => clear before (mem_bareReturns_iff.mp member).1⟩
    | @second offset next later _ passed abuts bare abuts' read =>
        refine mem_bareReturns_iff.mpr ⟨bare, fun before member abuts'' => ?_⟩
        obtain ⟨bare', clear⟩ := mem_bareReturns_iff.mp member
        have same := bare'.eq_of_abuts passed abuts'' abuts'
        exact clear offset read (same ▸ abuts)

end Reading

end FlowAudit.Rule
