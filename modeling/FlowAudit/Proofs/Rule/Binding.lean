import FlowAudit.Proofs.Rule.Identifier
import Mathlib.Algebra.Order.BigOperators.Group.List
import Mathlib.Algebra.Order.Group.Nat

/-!
# FlowAudit.Proofs.Rule.Binding

**Which bindings are reported as never used.** A name is declared as a run of word characters and dollar
signs, and read as a run of characters of identifiers. So what a use is depends on which characters
continue a name (`usedHere`, `uses`); either way it is no property, that is, there is no single dot before
it, blanks around the dot aside.

Reading a line keeps no more than a bit of what was before (`IdentScan.Between`), and goes through longest
runs and single characters between them (`runs_induction`). Hence the identifiers read are the uses that
identifier characters make (`count_identifiers`), while every declaration is among the uses that word
characters make (`count_declaredNames_le`).

Where no character touching the name makes a difference (`Plain`), a name used twice is not reported and
one used once is, one time (`reports_unused_bindings`). A combining accent is a word character and no
character of identifiers: a name with one is reported however often it is used (`used_binding_reported`).
-/

namespace FlowAudit.Rule

open FlowAudit.Text FlowAudit.Source

/-! ### Runs of characters -/

section Runs

variable {class_ : Char → Bool}

theorem takeWhile_append_stop {word rest : List Char} (inside : ∀ c ∈ word, class_ c = true)
    (stop : ∀ c ∈ rest.head?, class_ c = false) : (word ++ rest).takeWhile class_ = word := by
  rw [List.takeWhile_append_of_pos inside]
  cases rest with
  | nil => simp
  | cons c rest => simp [stop c rfl]

theorem head?_dropWhile_stop (text : List Char) :
    ∀ c ∈ (text.dropWhile class_).head?, class_ c = false := by
  intro c head
  have first := List.head?_dropWhile_not class_ text
  rwa [Option.mem_def.mp head] at first

/-- A text is made of longest runs of characters of a class and of single characters that are not of it. -/
@[elab_as_elim]
theorem runs_induction (class_ : Char → Bool) {motive : List Char → Prop} (nil : motive [])
    (apart : ∀ c rest, class_ c = false → motive rest → motive (c :: rest))
    (run : ∀ token after, token ≠ [] → (∀ c ∈ token, class_ c = true) →
      (∀ c ∈ after.head?, class_ c = false) → motive after → motive (token ++ after))
    (text : List Char) : motive text := by
  match text with
  | [] => exact nil
  | c :: rest =>
      cases member : class_ c with
      | false => exact apart c rest member (runs_induction class_ nil apart run rest)
      | true =>
          have shorter : (rest.dropWhile class_).length < (c :: rest).length :=
            Nat.lt_succ_of_le (List.dropWhile_sublist class_).length_le
          have later := runs_induction class_ nil apart run (rest.dropWhile class_)
          have all : ∀ d ∈ c :: rest.takeWhile class_, class_ d = true := by
            simpa [member] using List.all_eq_true.mp (List.all_takeWhile (p := class_) (l := rest))
          have whole := run _ _ (List.cons_ne_nil c _) all (head?_dropWhile_stop rest) later
          rwa [List.cons_append, List.takeWhile_append_dropWhile] at whole
termination_by text.length
decreasing_by
  · exact Nat.lt_succ_self _
  · exact shorter

end Runs

/-! ### Uses of a name -/

/-- What stands before a name makes it a property: a single dot, blanks around it aside. -/
def isProperty (before : List Char) : Bool :=
  (trimEnd before).getLast? == some '.' &&
    (trimEnd (trimEnd before).dropLast).getLast? != some '.'

/-- A name is used at a place of a line, which cuts the line into what is before it and the rest: no
character touches the name there that would continue it, and it is no property. -/
def usedHere (continues : Char → Bool) (name before rest : List Char) : Bool :=
  name.isPrefixOf rest && before.getLast?.all (fun c => !continues c) &&
    (rest.drop name.length).head?.all (fun c => !continues c) && !isProperty before

/-- How often a name is used in a line of code. -/
def usesIn (continues : Char → Bool) (name code : List Char) : Nat :=
  (List.range code.length).countP fun place =>
    usedHere continues name (code.take place) (code.drop place)

/-- How often a name is used in lines. -/
def uses (continues : Char → Bool) (name : List Char) (lines : List Line) : Nat :=
  (lines.map fun line => usesIn continues name line.code).sum

section Uses

variable {continues : Char → Bool} {name before rest token after : List Char}

theorem usedHere_iff :
    usedHere continues name before rest = true ↔
      (∃ after, Stands continues name (before ++ rest) before after) ∧ isProperty before = false := by
  simp only [usedHere, Bool.and_eq_true, List.isPrefixOf_iff_prefix, Option.all_eq_true,
    Bool.not_eq_true']
  constructor
  · rintro ⟨⟨⟨⟨after, rfl⟩, left⟩, right⟩, free⟩
    rw [List.drop_left] at right
    exact ⟨⟨after, rfl, left, right⟩, free⟩
  · rintro ⟨⟨after, cut, left, right⟩, free⟩
    obtain rfl := List.append_cancel_left cut
    rw [List.drop_left]
    exact ⟨⟨⟨⟨after, rfl⟩, left⟩, right⟩, free⟩

/-- How often a name is used from a place on. -/
def usesFrom (continues : Char → Bool) (name before : List Char) : List Char → Nat
  | [] => 0
  | c :: rest =>
    (if usedHere continues name before (c :: rest) then 1 else 0) +
      usesFrom continues name (before ++ [c]) rest

theorem countP_usedHere (before rest : List Char) :
    ((List.range' before.length rest.length).countP fun place =>
      usedHere continues name ((before ++ rest).take place) ((before ++ rest).drop place)) =
        usesFrom continues name before rest := by
  induction rest generalizing before with
  | nil => rfl
  | cons c rest ih =>
      have later := ih (before ++ [c])
      simp only [List.append_assoc, List.singleton_append, List.length_append, List.length_singleton]
        at later
      rw [List.length_cons, List.range'_succ, List.countP_cons, later, List.take_left, List.drop_left,
        usesFrom, Nat.add_comm]

theorem usesIn_eq (code : List Char) :
    usesIn continues name code = usesFrom continues name [] code := by
  rw [usesIn, List.range_eq_range']
  exact countP_usedHere [] code

/-- Within a run of characters that continue a name no use begins. -/
theorem usesFrom_within (last : ∃ c ∈ before.getLast?, continues c = true)
    (all : ∀ c ∈ token, continues c = true) (after : List Char) :
    usesFrom continues name before (token ++ after) =
      usesFrom continues name (before ++ token) after := by
  induction token generalizing before with
  | nil => simp
  | cons d token ih =>
      obtain ⟨c, end_, continued⟩ := last
      have unused : usedHere continues name before (d :: (token ++ after)) = false := by
        rw [← Bool.not_eq_true, usedHere_iff]
        rintro ⟨⟨_, stands⟩, -⟩
        exact absurd (stands.left c end_) (by simp [continued])
      have last : ∃ c ∈ (before ++ [d]).getLast?, continues c = true :=
        ⟨d, by simp, all d (List.mem_cons_self ..)⟩
      have next := ih last fun c member => all c (List.mem_cons_of_mem d member)
      rw [List.cons_append, usesFrom, unused, next]
      simp

/-- A longest run of characters that continue a name is a use of the name itself. -/
theorem usedHere_run (own : ∀ c ∈ name, continues c = true)
    (all : ∀ c ∈ token, continues c = true)
    (left : ∀ c ∈ before.getLast?, continues c = false)
    (right : ∀ c ∈ after.head?, continues c = false) :
    usedHere continues name before (token ++ after) =
      (decide (token = name) && !isProperty before) := by
  rw [Bool.eq_iff_iff, usedHere_iff, Bool.and_eq_true, decide_eq_true_eq, Bool.not_eq_true']
  refine and_congr_left fun _ => ⟨?_, ?_⟩
  · rintro ⟨after', cut, -, right'⟩
    rw [← takeWhile_append_stop all right, List.append_cancel_left cut,
      takeWhile_append_stop own right']
  · rintro rfl
    exact ⟨after, rfl, left, right⟩

theorem usesFrom_run (own : ∀ c ∈ name, continues c = true) (filled : token ≠ [])
    (all : ∀ c ∈ token, continues c = true)
    (left : ∀ c ∈ before.getLast?, continues c = false)
    (right : ∀ c ∈ after.head?, continues c = false) :
    usesFrom continues name before (token ++ after) =
      (if token = name ∧ isProperty before = false then 1 else 0) +
        usesFrom continues name (before ++ token) after := by
  obtain ⟨c, token, rfl⟩ := List.exists_cons_of_ne_nil filled
  have here := usedHere_run own all left right
  have last : ∃ d ∈ (before ++ [c]).getLast?, continues d = true :=
    ⟨c, by simp, all c (List.mem_cons_self ..)⟩
  have within : usesFrom continues name (before ++ [c]) (token ++ after) = _ :=
    usesFrom_within last (fun d member => all d (List.mem_cons_of_mem c member)) after
  rw [List.cons_append] at here ⊢
  rw [usesFrom, within, here]
  simp

/-- Further on there are no more uses. -/
theorem usesFrom_append_le (before first rest : List Char) :
    usesFrom continues name (before ++ first) rest ≤
      usesFrom continues name before (first ++ rest) := by
  induction first generalizing before with
  | nil => simp
  | cons c first ih =>
      have later := ih (before ++ [c])
      rw [List.append_assoc, List.singleton_append] at later
      rw [List.cons_append, usesFrom]
      exact Nat.le_trans later (Nat.le_add_left _ _)

end Uses

/-! ### Reading identifiers -/

theorem trimEnd_append_blank {c : Char} (blank : isBlank c = true) (text : List Char) :
    trimEnd (text ++ [c]) = trimEnd text := by
  simp [trimEnd, blank]

theorem trimEnd_append_visible {text : List Char} {c : Char} (visible : isBlank c = false) :
    trimEnd (text ++ [c]) = text ++ [c] := by
  simp [trimEnd, visible]

namespace IdentScan

/-- What the scan keeps in mind after some text when it is not within an identifier. The character before
the last one matters only where the last one is a dot. -/
structure Between (before : List Char) (s : IdentScan) : Prop where
  token : s.token = []
  last : s.last = (trimEnd before).getLast?
  secondLast : s.last = some '.' → s.secondLast = (trimEnd (trimEnd before).dropLast).getLast?

variable {before token after : List Char} {s : IdentScan} {c : Char}

theorem flush_of_token (h : s.token = []) : s.flush = s := by
  unfold flush
  rw [h]

theorem Between.start : Between [] {} := ⟨rfl, rfl, nofun⟩

/-- The scan knows what makes the next identifier a property. -/
theorem Between.isProperty_eq (between : Between before s) :
    (s.last == some '.' && s.secondLast != some '.') = isProperty before := by
  rw [isProperty, ← between.last]
  by_cases dot : s.last = some '.'
  · rw [between.secondLast dot]
  · rw [beq_false_of_ne dot, Bool.false_and, Bool.false_and]

/-- A character that belongs to no identifier. -/
theorem Between.step (between : Between before s) (apart : isIdentChar c = false) :
    Between (before ++ [c]) (s.step c) ∧ (s.step c).found = s.found := by
  obtain ⟨token, last, secondLast⟩ := between
  simp only [IdentScan.step, apart, Bool.false_eq_true, if_false, flush_of_token token]
  cases blank : isBlank c with
  | true =>
      refine ⟨⟨token, ?_, ?_⟩, rfl⟩
      · simpa [trimEnd_append_blank blank] using last
      · simpa [trimEnd_append_blank blank] using secondLast
  | false =>
      refine ⟨⟨token, ?_, ?_⟩, rfl⟩
      · simp [trimEnd_append_visible blank]
      · intro _
        simpa [trimEnd_append_visible blank] using last

/-- The characters of an identifier are kept, last one first. -/
theorem foldl_step_token (all : ∀ c ∈ token, isIdentChar c = true) (s : IdentScan) :
    token.foldl IdentScan.step s = { s with token := token.reverse ++ s.token } := by
  induction token generalizing s with
  | nil => rfl
  | cons c token ih =>
      have step : s.step c = { s with token := c :: s.token } := by
        simp [IdentScan.step, all c (List.mem_cons_self ..)]
      rw [List.foldl_cons, ih (fun d member => all d (List.mem_cons_of_mem c member)), step]
      simp

/-- What finishing an identifier does. -/
theorem flush_eq (s : IdentScan) (first : List Char) (end_ : Char) :
    { s with token := (first ++ [end_]).reverse }.flush =
      { token := []
        last := some end_
        secondLast := s.last
        found :=
          if (s.last == some '.' && s.secondLast != some '.') ||
            (first ++ [end_]).head?.any isAsciiDigit then s.found
          else (first ++ [end_]) :: s.found } := by
  cases first with
  | nil => simp [flush]
  | cons c first => simp [flush, List.getLast?_cons, List.getLast?_append]

/-- The end of an identifier. -/
theorem Between.flush (between : Between before s) (filled : token ≠ [])
    (all : ∀ c ∈ token, isIdentChar c = true) :
    Between (before ++ token) { s with token := token.reverse }.flush ∧
      { s with token := token.reverse }.flush.found =
        if isProperty before || token.head?.any isAsciiDigit then s.found else token :: s.found := by
  obtain ⟨first, end_, rfl⟩ := (List.eq_nil_or_concat token).resolve_left filled
  rw [List.concat_eq_append] at all ⊢
  have ident : isIdentChar end_ = true := all end_ (by simp)
  have visible : isBlank end_ = false := by
    rw [← Bool.not_eq_true]
    intro blank
    exact absurd ident (by simp [(continues_of_isBlank blank).1])
  rw [flush_eq, between.isProperty_eq, ← List.append_assoc before]
  refine ⟨⟨rfl, ?_, ?_⟩, rfl⟩
  · rw [trimEnd_append_visible visible, List.getLast?_concat]
  · intro dot
    obtain rfl : end_ = '.' := by simpa using dot
    exact absurd ident (by decide)

@[simp]
theorem flush_token (s : IdentScan) : s.flush.token = [] := by
  cases h : s.token with
  | nil => rw [flush_of_token h, h]
  | cons end_ token => simp [flush, h, List.getLast?_cons]

/-- Finishing an identifier before a character that belongs to none changes nothing. -/
theorem step_flush (apart : isIdentChar c = false) (s : IdentScan) : s.flush.step c = s.step c := by
  simp [IdentScan.step, apart, flush_of_token]

/-- So it does at the end of a text or before such a character. -/
theorem flush_foldl_flush (stop : ∀ c ∈ after.head?, isIdentChar c = false) (s : IdentScan) :
    (after.foldl IdentScan.step s.flush).flush = (after.foldl IdentScan.step s).flush := by
  cases after with
  | nil => exact flush_of_token (flush_token s)
  | cons c after => rw [List.foldl_cons, List.foldl_cons, step_flush (stop c rfl)]

/-- **The identifiers read from a place on** are the uses from there on. A name that is looked for holds
characters of identifiers only and does not begin with a digit. -/
theorem count_foldl_step {name : List Char} (own : ∀ c ∈ name, isIdentChar c = true)
    (word : ∃ c ∈ name.head?, isAsciiDigit c = false) (between : Between before s) {rest : List Char}
    (stop : ∀ c ∈ before.getLast?, isIdentChar c = true → ∀ d ∈ rest.head?, isIdentChar d = false) :
    (rest.foldl IdentScan.step s).flush.found.count name =
      s.found.count name + usesFrom isIdentChar name before rest := by
  induction rest using runs_induction isIdentChar generalizing before s with
  | nil => simp [flush_of_token between.token, usesFrom]
  | apart c rest ident ih =>
      obtain ⟨between', found⟩ := between.step ident
      have unused : usedHere isIdentChar name before (c :: rest) = false := by
        rw [← Bool.not_eq_true, usedHere_iff]
        rintro ⟨⟨after, cut, -, -⟩, -⟩
        obtain ⟨d, head, -⟩ := word
        obtain ⟨name, rfl⟩ := List.head?_eq_some_iff.mp head
        have same := List.append_cancel_left cut
        rw [List.cons_append, List.cons.injEq] at same
        exact absurd (own d (List.mem_cons_self ..)) (by simp [← same.1, ident])
      have later := ih between' (by simp [ident])
      rw [List.foldl_cons, later, found, usesFrom, unused]
      simp
  | run token after filled all right ih =>
      obtain ⟨between', found⟩ := between.flush filled all
      have left : ∀ c ∈ before.getLast?, isIdentChar c = false := by
        intro c last
        obtain ⟨d, token, rfl⟩ := List.exists_cons_of_ne_nil filled
        rw [← Bool.not_eq_true]
        intro ident
        exact absurd (all d (List.mem_cons_self ..)) (by simp [stop c last ident d rfl])
      have later := ih between' fun _ _ _ => right
      rw [List.foldl_append, foldl_step_token all, between.token, List.append_nil,
        ← flush_foldl_flush right, later, found, usesFrom_run own filled all left right]
      rw [← Nat.add_assoc]
      congr 1
      by_cases same : token = name
      · obtain rfl := same
        have noNumber : token.head?.any isAsciiDigit = false := by
          obtain ⟨d, head, letter⟩ := word
          simp [Option.mem_def.mp head, letter]
        cases property : isProperty before <;> simp [noNumber]
      · split <;> simp [same]

/-- A scan that has kept characters of identifiers only. -/
structure Spelled (s : IdentScan) : Prop where
  token : ∀ c ∈ s.token, isIdentChar c = true
  found : ∀ word ∈ s.found, ∀ c ∈ word, isIdentChar c = true

namespace Spelled

theorem start : Spelled {} := ⟨nofun, nofun⟩

theorem flush (spelled : Spelled s) : Spelled s.flush := by
  obtain ⟨token, found⟩ := spelled
  refine ⟨by simp, ?_⟩
  unfold IdentScan.flush
  split
  · dsimp only
    split
    · exact found
    · simpa using ⟨token, found⟩
  · exact found

theorem step (spelled : Spelled s) (c : Char) : Spelled (s.step c) := by
  unfold IdentScan.step
  split
  · next ident => exact ⟨by simpa [ident] using spelled.token, spelled.found⟩
  · dsimp only
    split
    · exact spelled.flush
    · exact ⟨spelled.flush.token, spelled.flush.found⟩

theorem foldl (spelled : Spelled s) (text : List Char) :
    Spelled (text.foldl IdentScan.step s) := by
  induction text generalizing s with
  | nil => exact spelled
  | cons c text ih => exact ih (spelled.step c)

end Spelled

end IdentScan

/-- **The identifiers of a line** are the uses in it. -/
theorem count_identifiers {name : List Char} (own : ∀ c ∈ name, isIdentChar c = true)
    (word : ∃ c ∈ name.head?, isAsciiDigit c = false) (code : List Char) :
    (identifiers code).count name = usesIn isIdentChar name code := by
  have apart : ∀ c ∈ ([] : List Char).getLast?, isIdentChar c = true →
      ∀ d ∈ code.head?, isIdentChar d = false := nofun
  rw [identifiers, List.count_reverse, IdentScan.count_foldl_step own word .start apart, usesIn_eq]
  simp

/-- Identifiers hold characters of identifiers only. -/
theorem isIdentChar_of_mem_identifiers {code word : List Char} (member : word ∈ identifiers code) :
    ∀ c ∈ word, isIdentChar c = true :=
  (IdentScan.Spelled.start.foldl code).flush.found word (List.mem_reverse.mp member)

/-! ### Declared names -/

/-- A text begins with a declaration: its word, blanks, the name as far as it goes, and the rest. The
length is that of all before the rest. -/
structure Declares (text name : List Char) (length : Nat) (before after : List Char) : Prop where
  cut : text = before ++ (name ++ after)
  length : length = before.length + name.length
  left : ∃ c ∈ before.getLast?, isBlank c = true
  free : ∀ more, isProperty (more ++ before) = false
  begins : ∃ c ∈ name.head?, startsName c = true
  own : ∀ c ∈ name, isWordOrDollar c = true
  right : ∀ c ∈ after.head?, isWordOrDollar c = false

theorem isWordOrDollar_of_startsName {c : Char} (begins : startsName c = true) :
    isWordOrDollar c = true := by
  simp only [startsName, Bool.or_eq_true, beq_iff_eq] at begins
  rcases begins with (letter | rfl) | rfl
  · have ascii : c.toNat < 128 := by
      simp only [isAsciiLetter, Bool.or_eq_true, Bool.and_eq_true, decide_eq_true_eq] at letter
      rcases letter with ⟨-, last⟩ | ⟨-, last⟩
      · exact Nat.lt_of_le_of_lt (show c.toNat ≤ 'z'.toNat from last) (by decide)
      · exact Nat.lt_of_le_of_lt (show c.toNat ≤ 'Z'.toNat from last) (by decide)
    simp [isWordOrDollar, isWordChar, ascii, letter]
  · decide
  · decide

theorem isAsciiDigit_of_startsName {c : Char} (begins : startsName c = true) :
    isAsciiDigit c = false := by
  rw [← Bool.not_eq_true]
  intro digit
  simp only [isAsciiDigit, Bool.and_eq_true, decide_eq_true_eq] at digit
  have small : c.toNat ≤ 57 := digit.2
  simp only [startsName, isAsciiLetter, Bool.or_eq_true, Bool.and_eq_true, decide_eq_true_eq,
    beq_iff_eq] at begins
  rcases begins with ((⟨letter, -⟩ | ⟨letter, -⟩) | rfl) | rfl
  · have : 97 ≤ c.toNat := letter
    omega
  · have : 65 ≤ c.toNat := letter
    omega
  · exact absurd digit (by decide)
  · exact absurd digit (by decide)

theorem isWordOrDollar_of_isBlank {c : Char} (blank : isBlank c = true) :
    isWordOrDollar c = false := by
  have sign : c ≠ '$' := by
    rintro rfl
    exact absurd blank (by decide)
  simp [isWordOrDollar, (continues_of_isBlank blank).2, sign]

/-- A word for declarations is no dot. -/
theorem isProperty_append_declarator {word blanks : List Char} (member : word ∈ declarators)
    (blank : allBlank blanks = true) (before : List Char) :
    isProperty (before ++ (word ++ blanks)) = false := by
  obtain ⟨first, end_, rfl, visible, letter⟩ : ∃ first end_, word = first ++ [end_] ∧
      isBlank end_ = false ∧ end_ ≠ '.' := by
    simp only [declarators, List.map_cons, List.map_nil, List.mem_cons, List.not_mem_nil,
      or_false] at member
    rcases member with rfl | rfl | rfl
    · exact ⟨['l', 'e'], 't', by decide⟩
    · exact ⟨['c', 'o', 'n', 's'], 't', by decide⟩
    · exact ⟨['v', 'a'], 'r', by decide⟩
  have trimmed : trimEnd (before ++ (first ++ [end_] ++ blanks)) = before ++ first ++ [end_] := by
    rw [← List.append_assoc, ← List.append_assoc]
    exact trimEnd_append blank (by simp [visible])
  rw [isProperty, trimmed]
  simp [letter]

theorem exists_declares {text name : List Char} {length : Nat}
    (found : declarationAt? text = some (name, length)) :
    ∃ before after, Declares text name length before after := by
  obtain ⟨word, member, found⟩ := List.exists_of_findSome?_eq_some found
  cases begun : afterPrefix? word text with
  | none => simp [begun] at found
  | some rest =>
      obtain rfl := afterPrefix?_eq_some.mp begun
      obtain ⟨blanks, blank, cut⟩ := exists_blanks_trimStart rest
      simp only [begun] at found
      cases start : trimStart rest with
      | nil => simp [start] at found
      | cons c more =>
          rw [start] at cut
          simp only [start] at found
          split at found
          · next accepted =>
              rw [Bool.and_eq_true, decide_eq_true_eq, cut, List.length_append] at accepted
              obtain ⟨shorter, begins⟩ := accepted
              obtain ⟨rfl, rfl⟩ := Prod.mk.inj (Option.some.inj found)
              have own := isWordOrDollar_of_startsName begins
              refine ⟨word ++ blanks, (c :: more).dropWhile isWordOrDollar, ?_, ?_, ?_,
                isProperty_append_declarator member blank, ⟨c, by simp [own], begins⟩,
                List.all_eq_true.mp List.all_takeWhile, head?_dropWhile_stop _⟩
              · rw [List.takeWhile_append_dropWhile, List.append_assoc, ← cut]
              · rw [cut]
                simp only [List.length_append]
                omega
              · obtain ⟨first, end_, rfl⟩ := (List.eq_nil_or_concat blanks).resolve_left (by
                  rintro rfl
                  simp at shorter)
                exact ⟨end_, by simp, List.all_eq_true.mp blank end_ (by simp)⟩
          · exact absurd found (by simp)

/-- Conversely, behind a word for declarations and blanks the name is read as far as it goes. -/
theorem declarationAt?_declarator {word blanks name after : List Char} (member : word ∈ declarators)
    (blank : allBlank blanks = true) (apart : blanks ≠ [])
    (begins : ∃ c ∈ name.head?, startsName c = true) (own : ∀ c ∈ name, isWordOrDollar c = true)
    (right : ∀ c ∈ after.head?, isWordOrDollar c = false) :
    declarationAt? (word ++ (blanks ++ (name ++ after))) =
      some (name, word.length + blanks.length + name.length) := by
  obtain ⟨c, head, starts⟩ := begins
  obtain ⟨more, rfl⟩ := List.head?_eq_some_iff.mp head
  have read := takeWhile_append_stop own right
  have visible : isBlank c = false := by
    rw [← Bool.not_eq_true]
    intro blank
    exact absurd (isWordOrDollar_of_startsName starts) (by simp [isWordOrDollar_of_isBlank blank])
  have trimmed : trimStart (blanks ++ (c :: more ++ after)) = c :: more ++ after :=
    trimStart_append blank (by simp [visible])
  have positive := List.length_pos_of_ne_nil apart
  rw [List.cons_append] at trimmed read ⊢
  simp only [declarators, List.map_cons, List.map_nil, List.mem_cons, List.not_mem_nil,
    or_false] at member
  -- No word for declarations begins like another one.
  rcases member with rfl | rfl | rfl <;>
  · simp [declarationAt?, declarators, afterPrefix?, trimmed, read, starts, positive]
    omega

theorem mem_declaredNames {text name : List Char} {length : Nat}
    (found : declarationAt? text = some (name, length)) : name ∈ declaredNames text := by
  cases text with
  | nil => exact absurd found (Option.some_ne_none _).symm
  | cons c rest => simp [declaredNames, declaredFrom, startsFree, found]

/-- Passing over characters is going on after them. -/
theorem declaredFrom_skip (count : Nat) (before : Option Char) (text : List Char) :
    declaredFrom count before text =
      declaredFrom 0 ((text.take count).getLast?.or before) (text.drop count) := by
  induction text generalizing count before with
  | nil => simp [declaredFrom]
  | cons c rest ih =>
      cases count with
      | zero => simp
      | succ count =>
          have last : ((c :: rest).take (count + 1)).getLast?.or before =
              (rest.take count).getLast?.or (some c) := by
            rw [List.take_succ_cons, List.getLast?_cons]
            cases (rest.take count).getLast? <;> rfl
          rw [declaredFrom, ih, last, List.drop_succ_cons]

namespace Declares

variable {text declared first after : List Char} {length : Nat}

theorem filled (declares : Declares text declared length first after) : declared ≠ [] := by
  obtain ⟨c, begins, -⟩ := declares.begins
  rintro rfl
  simp at begins

theorem shorter (declares : Declares text declared length first after) :
    after.length < text.length := by
  have positive := List.length_pos_of_ne_nil declares.filled
  simp only [declares.cut, List.length_append]
  omega

/-- After a declaration reading goes on behind the name. -/
theorem declaredFrom_eq (declares : Declares text declared length first after) (before : List Char) :
    declaredFrom length before.getLast? text =
      declaredFrom 0 (before ++ (first ++ declared)).getLast? after := by
  have cut : text = (first ++ declared) ++ after := by rw [declares.cut, List.append_assoc]
  have length_ : length = (first ++ declared).length := by rw [declares.length, List.length_append]
  rw [declaredFrom_skip, cut, length_, List.take_left, List.drop_left, ← List.getLast?_append]

/-- A declaration is a use of the name that it declares. -/
theorem usesFrom_le (declares : Declares text declared length first after) (name before : List Char) :
    usesFrom isWordOrDollar name (before ++ (first ++ declared)) after +
        (if declared = name then 1 else 0) ≤
      usesFrom isWordOrDollar name before text := by
  have left : ∀ c ∈ (before ++ first).getLast?, isWordOrDollar c = false := by
    obtain ⟨d, last, blank⟩ := declares.left
    intro c last'
    obtain rfl : d = c := by simpa [List.getLast?_append, Option.mem_def.mp last] using last'
    exact isWordOrDollar_of_isBlank blank
  have here : usesFrom isWordOrDollar name (before ++ (first ++ declared)) after +
      (if declared = name then 1 else 0) ≤
        usesFrom isWordOrDollar name (before ++ first) (declared ++ after) := by
    rw [← List.append_assoc]
    by_cases same : declared = name
    · obtain rfl := same
      rw [usesFrom_run declares.own declares.filled declares.own left declares.right]
      simp [declares.free, Nat.add_comm]
    · simpa [same] using usesFrom_append_le (before ++ first) declared after
  rw [declares.cut]
  exact Nat.le_trans here (usesFrom_append_le before first (declared ++ after))

end Declares

/-- Reading passes over a character, or reads a declaration. -/
theorem declaredFrom_cases (before : List Char) (c : Char) (rest : List Char) :
    declaredFrom 0 before.getLast? (c :: rest) = declaredFrom 0 (before ++ [c]).getLast? rest ∨
    ∃ declared length first after, Declares (c :: rest) declared length first after ∧
      declaredFrom 0 before.getLast? (c :: rest) =
        declared :: declaredFrom 0 (before ++ (first ++ declared)).getLast? after := by
  rw [declaredFrom, List.getLast?_concat]
  split
  · next declared length found =>
      split at found
      · obtain ⟨first, after, declares⟩ := exists_declares found
        right
        refine ⟨declared, length, first, after, declares, ?_⟩
        obtain ⟨n, rfl⟩ : ∃ n, length = n + 1 := by
          have total := declares.length
          have positive := List.length_pos_of_ne_nil declares.filled
          exact ⟨length - 1, by omega⟩
        rw [← declares.declaredFrom_eq, declaredFrom, Nat.add_sub_cancel]
      · exact absurd found (by simp)
  · exact .inl rfl

/-- **Every declaration is a use** of the name it declares, so there are at least as many uses. -/
theorem count_declaredFrom_le (name before text : List Char) :
    (declaredFrom 0 before.getLast? text).count name ≤ usesFrom isWordOrDollar name before text := by
  match text with
  | [] => simp [declaredFrom]
  | c :: rest =>
      rcases declaredFrom_cases before c rest with passed |
        ⟨declared, length, first, after, declares, read⟩
      · have later := count_declaredFrom_le name (before ++ [c]) rest
        rw [passed]
        exact Nat.le_trans later (usesFrom_append_le before [c] rest)
      · have shorter := declares.shorter
        have later := count_declaredFrom_le name (before ++ (first ++ declared)) after
        have here := declares.usesFrom_le name before
        rw [read, List.count_cons]
        simp only [beq_iff_eq]
        omega
termination_by text.length
decreasing_by
  · exact Nat.lt_succ_self _
  · exact shorter

theorem count_declaredNames_le (name code : List Char) :
    (declaredNames code).count name ≤ usesIn isWordOrDollar name code := by
  rw [usesIn_eq]
  exact count_declaredFrom_le name [] code

/-- A name that is declared is read off a declaration further on. -/
theorem exists_declares_of_mem {name : List Char} (before text : List Char)
    (member : name ∈ declaredFrom 0 before.getLast? text) :
    ∃ text', text' <:+ text ∧ ∃ length first after, Declares text' name length first after := by
  match text with
  | [] => simp [declaredFrom] at member
  | c :: rest =>
      rcases declaredFrom_cases before c rest with passed |
        ⟨declared, length, first, after, declares, read⟩
      · rw [passed] at member
        obtain ⟨text', suffix, found⟩ := exists_declares_of_mem (before ++ [c]) rest member
        exact ⟨text', suffix.trans (List.suffix_cons c rest), found⟩
      · rw [read] at member
        rcases List.mem_cons.mp member with rfl | later
        · exact ⟨_, List.suffix_refl _, _, _, _, declares⟩
        · have shorter := declares.shorter
          obtain ⟨text', suffix, found⟩ := exists_declares_of_mem _ after later
          have behind : after <:+ c :: rest :=
            ⟨first ++ declared, by rw [declares.cut, List.append_assoc]⟩
          exact ⟨text', suffix.trans behind, found⟩
termination_by text.length
decreasing_by
  · exact Nat.lt_succ_self _
  · exact shorter

/-! ### Reports -/

/-- The declarations in lines: each with its line and the name that it declares. -/
def declarations (lines : List Line) : List (Line × List Char) :=
  lines.flatMap fun line => (declaredNames line.code).map fun name => (line, name)

/-- What is said of a name that is never used, behind the headline of the rule. -/
def unusedMessage (name : List Char) : String :=
  Kind.unusedVariable.headline ++ ": " ++
    ("'" ++ String.ofList name ++ "' is declared but never used")

/-- The issue of a declaration. -/
def unusedIssue (line : Line) (name : List Char) : Issue where
  kind := .unusedVariable
  message := unusedMessage name
  line := some line.number

theorem unusedMessage_injective {name name' : List Char}
    (same : unusedMessage name = unusedMessage name') : name = name' := by
  have texts := congrArg String.toList same
  simp only [unusedMessage, String.toList_append, String.toList_ofList] at texts
  rwa [List.append_right_inj, List.append_left_inj, List.append_right_inj] at texts

/-- The rule reports the declared names that are read at most once and do not begin with an
underscore. -/
def isReported (lines : List Line) (name : List Char) : Bool :=
  name.head? != some '_' &&
    decide ((lines.flatMap fun line => identifiers line.code).count name ≤ 1)

theorem unusedVariable_eq (lines : List Line) :
    unusedVariable lines =
      ((declarations lines).filter fun d => isReported lines d.2).map fun d =>
        unusedIssue d.1 d.2 := by
  rw [unusedVariable, declarations, List.filter_flatMap, List.map_flatMap]
  congr 1
  funext line
  induction declaredNames line.code with
  | nil => rfl
  | cons name names ih =>
      have located (line : Line) : Issue.located .unusedVariable line.number
          ("'" ++ String.ofList name ++ "' is declared but never used") = unusedIssue line name := by
        simp [Issue.located, unusedIssue, unusedMessage]
      rw [List.filterMap_cons, List.map_cons, List.filter_cons, located, ih]
      by_cases marked : name.head? = some '_'
      · simp [isReported, marked]
      · by_cases few : (lines.flatMap fun line => identifiers line.code).count name ≤ 1 <;>
          simp [isReported, marked, few]

/-- A name of which nothing depends on which characters make up a name: its own characters are
characters of identifiers, and one that touches it somewhere continues either both kinds of name or
neither. -/
structure Plain (name : List Char) (lines : List Line) : Prop where
  own : ∀ c ∈ name, isIdentChar c = true
  touching : ∀ line ∈ lines, ∀ before after, line.code = before ++ (name ++ after) →
    (∀ c ∈ before.getLast?, isIdentChar c = isWordOrDollar c) ∧
      ∀ c ∈ after.head?, isIdentChar c = isWordOrDollar c

section Declared

variable {lines : List Line} {line : Line} {name : List Char}

theorem uses_eq_of_plain (plain : Plain name lines) :
    uses isIdentChar name lines = uses isWordOrDollar name lines := by
  rw [uses, uses]
  congr 1
  refine List.map_congr_left fun line member => List.countP_congr fun place _ => ?_
  rw [usedHere_iff, usedHere_iff, List.take_append_drop]
  refine and_congr_left fun _ => exists_congr fun after => ?_
  constructor
  · rintro ⟨cut, left, right⟩
    obtain ⟨before, behind⟩ := plain.touching line member _ _ cut
    exact ⟨cut, fun c last => before c last ▸ left c last, fun c head => behind c head ▸ right c head⟩
  · rintro ⟨cut, left, right⟩
    obtain ⟨before, behind⟩ := plain.touching line member _ _ cut
    exact ⟨cut, fun c last => (before c last).trans (left c last),
      fun c head => (behind c head).trans (right c head)⟩

/-- On ASCII characters both kinds of name agree. -/
theorem isIdentChar_eq_of_ascii {c : Char} (ascii : c.toNat < 128) :
    isIdentChar c = isWordOrDollar c := by
  rw [isIdentChar, isWordOrDollar, isAlphanumeric, isWordChar, if_pos ascii, if_pos ascii]

theorem exists_declares_of_declared (declared : (line, name) ∈ declarations lines) :
    line ∈ lines ∧ ∃ text, text <:+ line.code ∧
      ∃ length first after, Declares text name length first after := by
  obtain ⟨other, member, found⟩ := List.mem_flatMap.mp declared
  obtain ⟨_, named, same⟩ := List.mem_map.mp found
  obtain ⟨rfl, rfl⟩ := Prod.mk.inj same
  exact ⟨member, exists_declares_of_mem [] _ named⟩

/-- A declared name is plain where no character makes a difference between the two kinds of name. -/
theorem plain_of_agree (declared : (line, name) ∈ declarations lines)
    (agree : ∀ other ∈ lines, ∀ c ∈ other.code, isIdentChar c = isWordOrDollar c) :
    Plain name lines := by
  obtain ⟨member, text, ⟨start, suffix⟩, length, first, after, declares⟩ :=
    exists_declares_of_declared declared
  refine ⟨fun c within => ?_, fun other member' before behind cut => ⟨?_, ?_⟩⟩
  · rw [agree line member c (by rw [← suffix, declares.cut]; simp [within]), declares.own c within]
  · intro c last
    exact agree other member' c (by rw [cut]; simp [List.mem_of_getLast? last])
  · intro c head
    exact agree other member' c (by rw [cut]; simp [List.mem_of_head? head])

/-- No name is declared more often than it is used. -/
theorem countP_declarations_le (name : List Char) (lines : List Line) :
    (declarations lines).countP (fun d => d.2 = name) ≤ uses isWordOrDollar name lines := by
  rw [declarations, List.countP_flatMap, uses]
  refine List.sum_le_sum fun line _ => ?_
  have count := count_declaredNames_le name line.code
  rw [List.count] at count
  simpa [List.countP_map, Function.comp_def, beq_eq_decide] using count

theorem isReported_iff (declared : (line, name) ∈ declarations lines) :
    isReported lines name = true ↔ name.head? ≠ some '_' ∧
      ((∀ c ∈ name, isIdentChar c = true) → uses isIdentChar name lines ≤ 1) := by
  obtain ⟨-, text, -, length, first, after, declares⟩ := exists_declares_of_declared declared
  obtain ⟨c, head, begins⟩ := declares.begins
  rw [isReported, Bool.and_eq_true, bne_iff_ne, decide_eq_true_eq]
  refine and_congr_right fun _ => ?_
  rw [List.count_flatMap]
  by_cases own : ∀ c ∈ name, isIdentChar c = true
  · have counts : (lines.map fun line => (identifiers line.code).count name).sum =
        uses isIdentChar name lines := by
      rw [uses]
      congr 1
      refine List.map_congr_left fun line _ => ?_
      exact count_identifiers own ⟨c, head, isAsciiDigit_of_startsName begins⟩ line.code
    exact ⟨fun few _ => counts ▸ few, fun few => counts ▸ few own⟩
  · -- The name as a whole is never read.
    have never (line : Line) : (identifiers line.code).count name = 0 :=
      List.count_eq_zero.mpr fun read => own (isIdentChar_of_mem_identifiers read)
    simp [own, never, Function.comp_def]

theorem mem_unusedVariable_iff (declared : (line, name) ∈ declarations lines) :
    unusedIssue line name ∈ unusedVariable lines ↔ isReported lines name = true := by
  rw [unusedVariable_eq]
  constructor
  · intro member
    obtain ⟨⟨other, name'⟩, found, same⟩ := List.mem_map.mp member
    obtain rfl := unusedMessage_injective (congrArg Issue.message same)
    exact (List.mem_filter.mp found).2
  · intro reported
    exact List.mem_map.mpr ⟨(line, name), List.mem_filter.mpr ⟨declared, reported⟩, rfl⟩

/-- The issues about a name are those of its declarations, if it is reported. -/
theorem filter_unusedVariable (lines : List Line) (name : List Char) :
    (unusedVariable lines).filter (fun issue => issue.message = unusedMessage name) =
      if isReported lines name then
        ((declarations lines).filter fun d => d.2 = name).map fun d => unusedIssue d.1 d.2
      else [] := by
  have about (d : Line × List Char) :
      decide ((unusedIssue d.1 d.2).message = unusedMessage name) = decide (d.2 = name) :=
    decide_eq_decide.mpr ⟨unusedMessage_injective, fun same => congrArg unusedMessage same⟩
  rw [unusedVariable_eq, List.filter_map, List.filter_filter]
  simp only [Function.comp_def, about]
  by_cases reported : isReported lines name = true
  · rw [if_pos reported]
    congr 1
    refine List.filter_congr fun d _ => ?_
    by_cases same : d.2 = name
    · simp [same, reported]
    · simp [same]
  · rw [if_neg reported, List.filter_eq_nil_iff.mpr, List.map_nil]
    intro d _
    by_cases same : d.2 = name
    · simp [same, reported]
    · simp [same]

end Declared

/-- **Which bindings are reported as never used.** A declared name is reported unless an underscore marks
it or it is read a second time, as a run of identifier characters that is no property. If the name is plain,
then as soon as it is used twice, no issue is about it; if its declaration is its only use and no underscore
marks it, there is exactly one issue about it, on the line of the declaration. Every name is plain in a
source in whose code the characters beyond ASCII belong either to both kinds of name or to neither. -/
theorem reports_unused_bindings {source : List Char} {line : Line} {name : List Char}
    (declared : (line, name) ∈ declarations (maskSource source)) :
    (unusedIssue line name ∈ unusedVariable (maskSource source) ↔ name.head? ≠ some '_' ∧
      ((∀ c ∈ name, isIdentChar c = true) → uses isIdentChar name (maskSource source) ≤ 1)) ∧
    (Plain name (maskSource source) →
      (2 ≤ uses isWordOrDollar name (maskSource source) →
        ∀ issue ∈ unusedVariable (maskSource source), issue.message ≠ unusedMessage name) ∧
      (uses isWordOrDollar name (maskSource source) = 1 → name.head? ≠ some '_' →
        (unusedVariable (maskSource source)).filter
          (fun issue => issue.message = unusedMessage name) = [unusedIssue line name])) ∧
    ((∀ other ∈ maskSource source, ∀ c ∈ other.code,
      128 ≤ c.toNat → isIdentChar c = isWordOrDollar c) → Plain name (maskSource source)) := by
  generalize maskSource source = lines at *
  refine ⟨(mem_unusedVariable_iff declared).trans (isReported_iff declared),
    fun plain => ⟨?_, ?_⟩, ?_⟩
  · intro used issue member about
    have reported : isReported lines name = false := by
      rw [← Bool.not_eq_true, isReported_iff declared, uses_eq_of_plain plain]
      rintro ⟨-, few⟩
      have := few plain.own
      omega
    have none_ := filter_unusedVariable lines name
    rw [reported, if_neg Bool.false_ne_true, List.filter_eq_nil_iff] at none_
    exact none_ issue member (by simpa using about)
  · intro once unmarked
    have reported : isReported lines name = true := by
      rw [isReported_iff declared, uses_eq_of_plain plain]
      exact ⟨unmarked, fun _ => Nat.le_of_eq once⟩
    -- There is one declaration of the name, and it is this one.
    have only : (declarations lines).filter (fun d => d.2 = name) = [(line, name)] := by
      have member : (line, name) ∈ (declarations lines).filter (fun d => d.2 = name) :=
        List.mem_filter.mpr ⟨declared, by simp⟩
      have atMost := countP_declarations_le name lines
      rw [once, List.countP_eq_length_filter] at atMost
      have positive := List.length_pos_of_mem member
      obtain ⟨d, single⟩ := List.length_eq_one_iff.mp (Nat.le_antisymm atMost positive)
      rw [single, List.mem_singleton] at member
      rw [single, member]
    rw [filter_unusedVariable, if_pos reported, only, List.map_singleton]
  · intro agree
    refine plain_of_agree declared fun other member c within => ?_
    by_cases ascii : c.toNat < 128
    · exact isIdentChar_eq_of_ascii ascii
    · exact agree other member c within (Nat.le_of_not_lt ascii)

/-- A line that holds nothing but code, outside of braces. -/
def bareLine (number : Nat) (code : List Char) : Line where
  number
  raw := code
  code
  comment := []
  literals := []
  depth := 0

/-- One name occurs besides only as a property, the other one besides after a spread. -/
theorem reports_unused_bindings_property :
    (unusedVariable (maskSource "let a = 1;\nlet b = 2;\nsend(x.a, ...b);".toList)).filter
        (fun issue => issue.message = unusedMessage "a".toList) =
      [unusedIssue (bareLine 1 "let a = 1;".toList) "a".toList] ∧
    ∀ issue ∈ unusedVariable (maskSource "let a = 1;\nlet b = 2;\nsend(x.a, ...b);".toList),
      issue.message ≠ unusedMessage "b".toList := by
  have ascii : (maskSource "let a = 1;\nlet b = 2;\nsend(x.a, ...b);".toList).all
      (fun line => line.code.all fun c => c.toNat < 128) = true := by decide +kernel
  obtain ⟨-, once, plain⟩ := @reports_unused_bindings
    "let a = 1;\nlet b = 2;\nsend(x.a, ...b);".toList (bareLine 1 "let a = 1;".toList) "a".toList
    (by decide +kernel)
  obtain ⟨-, twice, plain'⟩ := @reports_unused_bindings
    "let a = 1;\nlet b = 2;\nsend(x.a, ...b);".toList (bareLine 2 "let b = 2;".toList) "b".toList
    (by decide +kernel)
  have agree : ∀ line ∈ maskSource "let a = 1;\nlet b = 2;\nsend(x.a, ...b);".toList,
      ∀ c ∈ line.code, 128 ≤ c.toNat → isIdentChar c = isWordOrDollar c := by
    intro line member c within other
    have low := List.all_eq_true.mp (List.all_eq_true.mp ascii line member) c within
    exact absurd (of_decide_eq_true low) (Nat.not_lt.mpr other)
  exact ⟨(once (plain agree)).2 (by decide +kernel) (by decide +kernel),
    (twice (plain' agree)).1 (by decide +kernel)⟩

/-- A name with a combining accent is used on the next line, and reported. -/
theorem used_binding_reported :
    ∃ declaration ∈ maskSource "let a\u0301 = 1;\nsend(a\u0301);".toList, declaration.number = 1 ∧
      (declaration, "a\u0301".toList) ∈
        declarations (maskSource "let a\u0301 = 1;\nsend(a\u0301);".toList) ∧
      uses isWordOrDollar "a\u0301".toList (maskSource "let a\u0301 = 1;\nsend(a\u0301);".toList) = 2 ∧
      unusedIssue declaration "a\u0301".toList ∈
        unusedVariable (maskSource "let a\u0301 = 1;\nsend(a\u0301);".toList) := by
  have mark : isWordOrDollar '\u0301' = true ∧ isIdentChar '\u0301' = false := by
    simp only [isWordOrDollar, isWordChar, isIdentChar, isAlphanumeric, inRanges_eq]
    decide +kernel
  have masked : maskSource "let a\u0301 = 1;\nsend(a\u0301);".toList =
      [bareLine 1 "let a\u0301 = 1;".toList, bareLine 2 "send(a\u0301);".toList] := by
    decide +kernel
  have own : ∀ c ∈ "a\u0301".toList, isWordOrDollar c = true := by
    have letter : isWordOrDollar 'a' = true := by decide
    simp [letter, mark.1]
  have right : ∀ c ∈ " = 1;".toList.head?, isWordOrDollar c = false := by
    intro c head
    obtain rfl := Option.some.inj head
    decide
  have named : "a\u0301".toList ∈ declaredNames "let a\u0301 = 1;".toList :=
    mem_declaredNames (@declarationAt?_declarator "let".toList [' '] "a\u0301".toList " = 1;".toList
      (by decide) (by decide) (by decide) ⟨'a', rfl, by decide⟩ own right)
  rw [masked]
  have declared : (bareLine 1 "let a\u0301 = 1;".toList, "a\u0301".toList) ∈
      declarations [bareLine 1 "let a\u0301 = 1;".toList, bareLine 2 "send(a\u0301);".toList] :=
    List.mem_flatMap.mpr ⟨_, List.mem_cons_self .., List.mem_map.mpr ⟨_, named, rfl⟩⟩
  refine ⟨_, List.mem_cons_self .., rfl, declared, by decide +kernel, ?_⟩
  rw [mem_unusedVariable_iff declared, isReported_iff declared]
  exact ⟨by decide, fun own => absurd (own '\u0301' (by decide)) (by simp [mark.2])⟩

end FlowAudit.Rule
