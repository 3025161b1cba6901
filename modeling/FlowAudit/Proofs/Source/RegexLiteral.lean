import FlowAudit.Proofs.Source.Position

/-!
# FlowAudit.Proofs.Source.RegexLiteral

**Where a regular expression ends, and that reading comes to the end of every line.** Which slash closes
a regular expression can be said of the places of a line: one that is not escaped and not inside a class
(`Closes`). Reading goes from left to right, takes an escape and what it escapes at once, and remembers
whether a class is open. The invariant is `SearchAt`: the place come to is not escaped, and what is
remembered is true of it. The first slash that closes is the one that is found, and where there is none the
literal goes on to the end of the line (`endsRegex_regexEnd`), whatever stands on it.

So a regular expression never reaches past its line, nor does anything else that is left out after a
character (`Scan.skip_step_le`). The second part reads a line with an index that goes past what is left
out at once (`Cursor.next`): every iteration moves the index forward, and there are at most as many as
the line has characters (`Cursor.exists_iterates`).
-/

namespace FlowAudit.Source

/-! ### Slashes that close -/

/-- After a slash at `start`, the character at an index is escaped: the one before it is a backslash that
is not escaped itself. -/
def Escaped (chars : List Char) (start : Nat) : Nat → Prop
  | 0 => False
  | index + 1 => start < index ∧ chars[index]? = some '\\' ∧ ¬ Escaped chars start index

/-- A character stands at an index after the slash at `start`, and it is not escaped. -/
structure Unescaped (chars : List Char) (start index : Nat) (c : Char) : Prop where
  after : start < index
  here : chars[index]? = some c
  free : ¬ Escaped chars start index

/-- An index lies inside a class: a bracket before it opens one that no bracket in between closes. -/
def InClass (chars : List Char) (start index : Nat) : Prop :=
  ∃ opening < index, Unescaped chars start opening '[' ∧
    ∀ between, opening < between → between < index → ¬ Unescaped chars start between ']'

/-- The slash at an index closes the regular expression that the one at `start` opens, unless an earlier
one does. -/
structure Closes (chars : List Char) (start index : Nat) : Prop where
  slash : Unescaped chars start index '/'
  outside : ¬ InClass chars start index

/-- What is found from an index on is the first slash that closes, or nothing if there is none. -/
def FirstClosing (chars : List Char) (start index : Nat) : Option Nat → Prop
  | some found => Closes chars start found ∧ ∀ earlier, index ≤ earlier → earlier < found →
      ¬ Closes chars start earlier
  | none => ∀ later, index ≤ later → ¬ Closes chars start later

section Closing

variable {chars : List Char} {start index : Nat} {c : Char} {found : Option Nat}

theorem escaped_succ_iff : Escaped chars start (index + 1) ↔ Unescaped chars start index '\\' :=
  ⟨fun h => ⟨h.1, h.2.1, h.2.2⟩, fun h => ⟨h.after, h.here, h.free⟩⟩

theorem Unescaped.eq {d : Char} (unescaped : Unescaped chars start index d)
    (here : chars[index]? = some c) : d = c :=
  Option.some.inj (unescaped.here.symm.trans here)

/-- What comes one place further on is inside a class if a class begins here, or if this place is inside
one that does not end here. -/
theorem inClass_succ_iff : InClass chars start (index + 1) ↔
    Unescaped chars start index '[' ∨
      InClass chars start index ∧ ¬ Unescaped chars start index ']' := by
  constructor
  · rintro ⟨opening, before, opens, none⟩
    obtain earlier | rfl := Nat.lt_succ_iff_lt_or_eq.mp before
    · exact Or.inr ⟨⟨opening, earlier, opens, fun between after upTo =>
        none between after (Nat.lt_succ_of_lt upTo)⟩, none index earlier (Nat.lt_succ_self _)⟩
    · exact Or.inl opens
  · rintro (opens | ⟨⟨opening, before, opens, none⟩, open_⟩)
    · exact ⟨index, Nat.lt_succ_self _, opens, fun between after upTo => by omega⟩
    · refine ⟨opening, Nat.lt_succ_of_lt before, opens, fun between after upTo => ?_⟩
      obtain earlier | rfl := Nat.lt_succ_iff_lt_or_eq.mp upTo
      · exact none between after earlier
      · exact open_

theorem Closes.lt_length (closes : Closes chars start index) : index < chars.length :=
  (List.getElem?_eq_some_iff.mp closes.slash.here).1

theorem not_closes_of_drop_eq_nil (rest : chars.drop index = []) {later : Nat} (from_ : index ≤ later) :
    ¬ Closes chars start later := fun closes => by
  have ended := List.drop_eq_nil_iff.mp rest
  have within := closes.lt_length
  omega

theorem drop_eq_cons {more : List Char} (rest : chars.drop index = c :: more) :
    chars[index]? = some c ∧ chars.drop (index + 1) = more := by
  rw [← List.head?_drop, ← List.drop_drop, rest]
  exact ⟨rfl, rfl⟩

namespace FirstClosing

/-- A place at which nothing closes may be passed over. -/
theorem pass (first : FirstClosing chars start (index + 1) found)
    (open_ : ¬ Closes chars start index) : FirstClosing chars start index found := by
  have further {later : Nat} (from_ : index ≤ later) (closes : Closes chars start later) :
      index + 1 ≤ later := by
    refine Nat.lt_of_le_of_ne from_ fun same => open_ ?_
    rw [same]
    exact closes
  cases found with
  | none => exact fun later from_ closes => first later (further from_ closes) closes
  | some found =>
      exact ⟨first.1, fun earlier from_ before closes =>
        first.2 earlier (further from_ closes) before closes⟩

end FirstClosing

/-! ### Looking for it -/

/-- Looking for the slash that closes has come to an index: the character there is not escaped, and it is
known whether it stands inside a class. -/
structure SearchAt (chars : List Char) (start index : Nat) (inClass : Bool) : Prop where
  after : start < index
  free : ¬ Escaped chars start index
  inClass_iff : inClass = true ↔ InClass chars start index

namespace SearchAt

variable {inClass : Bool}

/-- Right after the slash that opens nothing is escaped and no class is open. -/
theorem begin (chars : List Char) (start : Nat) : SearchAt chars start (start + 1) false := by
  refine ⟨Nat.lt_succ_self start, fun escaped => Nat.lt_irrefl _ escaped.1, ?_⟩
  rw [Bool.false_eq_true, false_iff]
  rintro ⟨opening, before, opens, -⟩
  have after := opens.after
  omega

theorem unescaped (at_ : SearchAt chars start index inClass) (here : chars[index]? = some c) :
    Unescaped chars start index c :=
  ⟨at_.after, here, at_.free⟩

theorem closes_iff (at_ : SearchAt chars start index inClass) (here : chars[index]? = some c) :
    Closes chars start index ↔ c = '/' ∧ inClass = false := by
  rw [← Bool.not_eq_true, at_.inClass_iff]
  constructor
  · rintro ⟨slash, outside⟩
    exact ⟨(slash.eq here).symm, outside⟩
  · rintro ⟨rfl, outside⟩
    exact ⟨at_.unescaped here, outside⟩

/-- Past a backslash and the character that it escapes. -/
theorem escape (at_ : SearchAt chars start index inClass) (here : chars[index]? = some '\\') :
    SearchAt chars start (index + 2) inClass := by
  have escaped : Escaped chars start (index + 1) := escaped_succ_iff.mpr (at_.unescaped here)
  have unmarked {d : Char} : ¬ Unescaped chars start (index + 1) d := fun h => h.free escaped
  refine ⟨Nat.lt_add_right 2 at_.after, fun again => unmarked (escaped_succ_iff.mp again), ?_⟩
  have noBracket {d : Char} (other : d ≠ '\\') : ¬ Unescaped chars start index d :=
    fun h => other (h.eq here)
  rw [at_.inClass_iff, inClass_succ_iff, inClass_succ_iff]
  simp [unmarked, noBracket]

/-- Past any other character. -/
theorem step (at_ : SearchAt chars start index inClass) (here : chars[index]? = some c)
    (other : c ≠ '\\') {inClass' : Bool}
    (next : inClass' = true ↔ c = '[' ∨ inClass = true ∧ c ≠ ']') :
    SearchAt chars start (index + 1) inClass' := by
  have unescaped {d : Char} : Unescaped chars start index d ↔ c = d :=
    ⟨fun h => (h.eq here).symm, fun same => same ▸ at_.unescaped here⟩
  refine ⟨Nat.lt_succ_of_lt at_.after, fun escaped => ?_, ?_⟩
  · exact other (unescaped.mp (escaped_succ_iff.mp escaped))
  · rw [next, inClass_succ_iff, unescaped, unescaped, at_.inClass_iff]

end SearchAt

/-- A place counted from further on, counted from here. -/
theorem map_map_add (found : Option Nat) (index count : Nat) :
    (found.map (· + count)).map (index + ·) = found.map (index + count + ·) := by
  cases found with
  | none => rfl
  | some position =>
      show some (index + (position + count)) = some (index + count + position)
      congr 1
      omega

/-- **The slash that is found is the first one that closes.** -/
theorem firstClosing_closingSlash? {inClass : Bool} {text : List Char}
    (at_ : SearchAt chars start index inClass) (rest : chars.drop index = text) :
    FirstClosing chars start index ((closingSlash? inClass text).map (index + ·)) := by
  fun_induction closingSlash? inClass text generalizing index with
  | case1 inClass =>
      exact fun later from_ => not_closes_of_drop_eq_nil rest from_
  | case2 inClass =>
      -- A backslash at the end of the line escapes nothing.
      obtain ⟨here, tail⟩ := drop_eq_cons rest
      have none_ : FirstClosing chars start (index + 1) none :=
        fun later from_ => not_closes_of_drop_eq_nil tail from_
      exact none_.pass (by simp [at_.closes_iff here])
  | case3 inClass d more ih =>
      obtain ⟨here, tail⟩ := drop_eq_cons rest
      have first := ih (at_.escape here) (drop_eq_cons tail).2
      have escaped : ¬ Closes chars start (index + 1) :=
        fun closes => closes.slash.free (escaped_succ_iff.mpr (at_.unescaped here))
      rw [map_map_add]
      exact (first.pass escaped).pass (by simp [at_.closes_iff here])
  | case4 inClass more other ih =>
      obtain ⟨here, tail⟩ := drop_eq_cons rest
      have first := ih (at_.step here other (by simp)) tail
      rw [map_map_add]
      exact first.pass (by simp [at_.closes_iff here])
  | case5 inClass more other bracket ih =>
      obtain ⟨here, tail⟩ := drop_eq_cons rest
      have first := ih (at_.step here other (by simp)) tail
      rw [map_map_add]
      exact first.pass (by simp [at_.closes_iff here])
  | case6 inClass d more other opening closing slash =>
      obtain ⟨here, -⟩ := drop_eq_cons rest
      refine ⟨(at_.closes_iff here).mpr (by simpa using slash), fun earlier from_ before => ?_⟩
      exact absurd before (Nat.not_lt_of_le from_)
  | case7 inClass d more other opening closing noSlash ih =>
      obtain ⟨here, tail⟩ := drop_eq_cons rest
      have first := ih (at_.step here other (by simp [opening, closing])) tail
      rw [map_map_add]
      exact first.pass (by simpa [at_.closes_iff here] using noSlash)

/-- The last index of the regular expression that the slash at `start` opens. -/
def regexEnd (chars : List Char) (start : Nat) : Nat :=
  start + regexLength (chars.drop (start + 1))

/-- A regular expression ends on its line: at the first slash that closes it, or at the last character if
there is no such slash. -/
structure EndsRegex (chars : List Char) (start stop : Nat) : Prop where
  start_le : start ≤ stop
  stop_lt : stop < chars.length
  first : (Closes chars start stop ∧ ∀ earlier < stop, ¬ Closes chars start earlier) ∨
    ((∀ index, ¬ Closes chars start index) ∧ stop = chars.length - 1)

/-- Nothing closes a regular expression before it has begun. -/
theorem FirstClosing.not_closes (first : FirstClosing chars start (start + 1) found) :
    match found with
    | some found => ∀ earlier < found, ¬ Closes chars start earlier
    | none => ∀ index, ¬ Closes chars start index := by
  cases found with
  | none => exact fun index closes => first index closes.slash.after closes
  | some found =>
      exact fun earlier before closes => first.2 earlier closes.slash.after before closes

theorem endsRegex_regexEnd (within : start < chars.length) :
    EndsRegex chars start (regexEnd chars start) := by
  have first := firstClosing_closingSlash? (SearchAt.begin chars start) rfl
  have length : (chars.drop (start + 1)).length = chars.length - (start + 1) := List.length_drop
  rw [regexEnd, regexLength]
  cases closed : closingSlash? false (chars.drop (start + 1)) with
  | none =>
      rw [closed] at first
      dsimp only
      exact ⟨by omega, by omega, Or.inr ⟨first.not_closes, by omega⟩⟩
  | some position =>
      rw [closed] at first
      have here : start + (position + 1) = start + 1 + position := by omega
      rw [here]
      exact ⟨by omega, first.1.lt_length, Or.inl ⟨first.1, first.not_closes⟩⟩

/-- A slash in a class that nothing closes closes nothing, nor does a backslash at the end escape. -/
example : regexEnd "/[/\\".toList 0 = 3 := by decide +kernel

end Closing

/-! ### Going on past what is left out -/

theorem regexLength_le (rest : List Char) : regexLength rest ≤ rest.length := by
  have ends : EndsRegex ('/' :: rest) 0 (regexEnd ('/' :: rest) 0) :=
    endsRegex_regexEnd (Nat.zero_lt_succ _)
  have stop := ends.stop_lt
  simp only [regexEnd, List.drop_succ_cons, List.drop_zero, List.length_cons] at stop
  omega

namespace Scan

theorem skip_openBrace (s : Scan) : s.openBrace.skip = s.skip := by
  unfold openBrace
  split <;> rfl

theorem skip_closeBrace (s : Scan) : s.closeBrace.skip = s.skip := by
  unfold closeBrace
  split <;> rfl

variable {s : Scan} (fresh : s.skip = 0)
include fresh

theorem skip_le_of_fresh (rest : List Char) : s.skip ≤ rest.length :=
  fresh ▸ Nat.zero_le _

theorem skip_codeStep_le (c : Char) (rest : List Char) : (s.codeStep c rest).skip ≤ rest.length := by
  by_cases slash : c = '/'
  · subst slash
    by_cases line : rest.head? = some '/'
    · obtain ⟨comment, rfl⟩ := List.head?_eq_some_iff.mp line
      exact Nat.le_refl _
    · by_cases block : rest.head? = some '*'
      · obtain ⟨comment, rfl⟩ := List.head?_eq_some_iff.mp block
        exact Nat.succ_le_succ (Nat.zero_le _)
      · rw [codeStep_slash s line block]
        split
        · exact regexLength_le rest
        · exact skip_le_of_fresh fresh rest
  · have unmoved : (s.codeStep c rest).skip = 0 := by
      unfold codeStep
      rw [if_neg slash]
      split
      · exact fresh
      · split
        · exact fresh
        · split
          · rw [skip_openBrace, fresh]
          · split
            · rw [skip_closeBrace, fresh]
            · exact fresh
    rw [unmoved]
    exact Nat.zero_le _

theorem skip_commentStep_le (c : Char) (rest : List Char) :
    (s.commentStep c rest).skip ≤ rest.length := by
  unfold commentStep
  split
  · next ends =>
      cases rest with
      | nil => simp at ends
      | cons d more => exact Nat.succ_le_succ (Nat.zero_le _)
  · exact skip_le_of_fresh fresh rest

theorem skip_escapeStep_le (rest : List Char) : (s.escapeStep rest).skip ≤ rest.length := by
  cases rest with
  | nil => exact Nat.le_of_eq fresh
  | cons d more => exact Nat.succ_le_succ (Nat.zero_le _)

theorem skip_quotedStep_le (quote c : Char) (rest : List Char) :
    (s.quotedStep quote c rest).skip ≤ rest.length := by
  unfold quotedStep
  split
  · exact skip_escapeStep_le fresh rest
  · split
    · exact skip_le_of_fresh fresh rest
    · exact skip_le_of_fresh fresh rest

theorem skip_templateStep_le (c : Char) (rest : List Char) :
    (s.templateStep c rest).skip ≤ rest.length := by
  unfold templateStep
  split
  · exact skip_escapeStep_le fresh rest
  · split
    · exact skip_le_of_fresh fresh rest
    · split
      · next opens =>
          cases rest with
          | nil => simp at opens
          | cons d more => exact Nat.succ_le_succ (Nat.zero_le _)
      · exact skip_le_of_fresh fresh rest

/-- **Nothing past the end of a line is left out.** -/
theorem skip_step_le (c : Char) (rest : List Char) : (s.step c rest).skip ≤ rest.length := by
  rw [step, fresh]
  dsimp only
  split
  · exact skip_codeStep_le fresh c rest
  · exact skip_commentStep_le fresh c rest
  · exact skip_quotedStep_le fresh _ c rest
  · exact skip_templateStep_le fresh c rest

end Scan

/-- A place on a line at which reading stops to look: the state of the machine, and the index of the
character that it looks at. -/
structure Cursor where
  scan : Scan
  index : Nat
  deriving Repr, DecidableEq

namespace Cursor

/-- One iteration: the machine looks at a character and goes on past those that it leaves out. -/
def next (chars : List Char) (here : Cursor) : Cursor :=
  match chars.drop here.index with
  | [] => here
  | c :: rest =>
    let s := here.scan.step c rest
    { scan := s.skipping 0, index := here.index + 1 + s.skip }

/-- The machine looks at a slash that begins no comment where a regular expression may begin. -/
structure AtRegex (chars : List Char) (here : Cursor) : Prop where
  fresh : here.scan.skip = 0
  mode : here.scan.carry.mode = .code
  slash : chars[here.index]? = some '/'
  noComment : chars[here.index + 1]? ≠ some '/' ∧ chars[here.index + 1]? ≠ some '*'
  opens : opensRegex here.scan.found.code = true

/-- At a regular expression, reading goes on right after its end. -/
theorem AtRegex.index_next {chars : List Char} {here : Cursor} (at_ : here.AtRegex chars) :
    (here.next chars).index = regexEnd chars here.index + 1 := by
  obtain ⟨within, slash⟩ := List.getElem?_eq_some_iff.mp at_.slash
  have noComment := at_.noComment
  rw [← List.head?_drop] at noComment
  have step : here.scan.step '/' (chars.drop (here.index + 1)) =
      (((here.scan.pushCode '/').pushCode '.').pushCode '/').skipping
        (regexLength (chars.drop (here.index + 1))) := by
    rw [Scan.step, at_.fresh]
    dsimp only
    rw [at_.mode]
    exact (Scan.codeStep_slash here.scan noComment.1 noComment.2).trans (if_pos at_.opens)
  rw [next, List.drop_eq_getElem_cons within, slash]
  dsimp only
  rw [step, regexEnd]
  show here.index + 1 + regexLength _ = _
  omega

/-- What a loop over a line does from a place on, with the number of its iterations: it looks at a
character as long as there is one, and each time it goes forward. -/
inductive Iterates (chars : List Char) : Nat → Cursor → Cursor → Prop
  | finished {here : Cursor} (past : chars.length ≤ here.index) : Iterates chars 0 here here
  | look {count : Nat} {here last : Cursor} (within : here.index < chars.length)
      (forward : here.index < (here.next chars).index)
      (further : Iterates chars count (here.next chars) last) : Iterates chars (count + 1) here last

/-- **Reading a line with an index that jumps** comes to its end in no more iterations than there are
characters, and to the same state as going through it character by character. The induction goes through
the characters that are left out too; at these the place to look at stays the same. -/
theorem exists_iterates (s : Scan) (before : List Char) {text : List Char}
    (room : s.skip ≤ text.length) :
    ∃ count ≤ text.length, Iterates (before ++ text) count
      ⟨s.skipping 0, before.length + s.skip⟩ ⟨s.run text, (before ++ text).length⟩ := by
  induction text generalizing s before with
  | nil =>
      have fresh : s.skip = 0 := Nat.le_zero.mp room
      have same : s.skipping 0 = s := by rw [← fresh]; rfl
      refine ⟨0, Nat.le_refl 0, ?_⟩
      rw [List.append_nil, Scan.run, fresh, same]
      exact .finished (Nat.le_refl _)
  | cons c rest ih =>
      have through (s : Scan) (room : s.skip ≤ rest.length) := ih s (before ++ [c]) room
      simp only [List.append_assoc, List.singleton_append] at through
      have place (skip : Nat) : (before ++ [c]).length + skip = before.length + 1 + skip := by simp
      cases skip : s.skip with
      | succ n =>
          have left : s.step c rest = s.skipping n := Scan.step_of_skip skip c rest
          rw [skip, List.length_cons] at room
          obtain ⟨count, few, iterates⟩ := through (s.skipping n) (Nat.le_of_succ_le_succ room)
          refine ⟨count, Nat.le_succ_of_le few, ?_⟩
          rw [Scan.run, left, Nat.add_comm n 1, ← Nat.add_assoc, ← place]
          exact iterates
      | zero =>
          have moved : Cursor.next (before ++ c :: rest) ⟨s.skipping 0, before.length⟩ =
              ⟨(s.step c rest).skipping 0, (before ++ [c]).length + (s.step c rest).skip⟩ := by
            have same : s.skipping 0 = s := by rw [← skip]; rfl
            rw [next, List.drop_left, place, same]
          obtain ⟨count, few, iterates⟩ := through (s.step c rest) (Scan.skip_step_le skip c rest)
          refine ⟨count + 1, Nat.succ_le_succ few, .look ?_ ?_ ?_⟩
          · simp
          · rw [Nat.add_zero, moved, place]
            show before.length < before.length + 1 + (s.step c rest).skip
            omega
          · rw [Nat.add_zero, moved, Scan.run]
            exact iterates

end Cursor

/-- **Regular expressions end on their line, and reading always comes to the end of a line.** From every
slash, and indeed from every index, the end of a regular expression lies on the same line, at the first
slash that closes it if there is one. Where the machine reads a regular expression it goes on right after
that end. From whatever the lines before have left, reading a line takes at most as many iterations as it
has characters, each of which goes forward, and it leaves what masking goes on with. -/
theorem reading_progresses (chars : List Char) :
    (∀ start < chars.length, EndsRegex chars start (regexEnd chars start)) ∧
    (∀ here : Cursor, here.AtRegex chars → (here.next chars).index = regexEnd chars here.index + 1) ∧
    ∀ carry : Carry, ∃ count ≤ chars.length,
      Cursor.Iterates chars count ⟨{ carry }, 0⟩ ⟨Scan.run { carry } chars, chars.length⟩ :=
  ⟨fun _ within => endsRegex_regexEnd within, fun _ at_ => at_.index_next,
    fun carry => Cursor.exists_iterates { carry } [] (Nat.zero_le _)⟩

/-- A class with a slash and an escaped bracket in it, and an escaped slash after it. -/
def classes : List Char := "x = /[/\\]]a\\//g;".toList

theorem reading_progresses_classes :
    4 < classes.length ∧ EndsRegex classes 4 13 ∧
      (⟨{ carry := {}, found := { code := " = x".toList } }, 4⟩ : Cursor).AtRegex classes ∧
      (Cursor.next classes ⟨{ carry := {}, found := { code := " = x".toList } }, 4⟩).index = 14 ∧
      ∃ count ≤ classes.length, Cursor.Iterates classes count ⟨{ carry := {} }, 0⟩
        ⟨Scan.run { carry := {} } classes, classes.length⟩ := by
  obtain ⟨ends, goesOn, iterates⟩ := reading_progresses classes
  have at_ : (⟨{ carry := {}, found := { code := " = x".toList } }, 4⟩ : Cursor).AtRegex classes :=
    ⟨rfl, rfl, by decide +kernel, by decide +kernel, by decide +kernel⟩
  have stop : regexEnd classes 4 = 13 := by decide +kernel
  have inside : 4 < classes.length := by decide +kernel
  refine ⟨inside, ?_, at_, ?_, iterates {}⟩
  · rw [← stop]
    exact ends 4 inside
  · rw [goesOn _ at_]
    exact congrArg (· + 1) stop

end FlowAudit.Source
