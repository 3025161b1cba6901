import FlowAudit.Proofs.Rule.Report

/-!
# FlowAudit.Proofs.Rule.Identifier

**Which identifiers the rules for calls and for breakpoints see.** Three rules search the code of a line
for a word: `console` and `node` with a method call after them, and `debugger`. Each of them reports
exactly the lines on which its word stands between texts that do not continue it
(`CallFamily.CalledAt`, `DebuggerAt`).

What continues a word is not what continues an identifier. Identifiers are made of letters, numbers,
underscores and dollar signs (`isIdentChar`), words of word characters (`isWordChar`), and the
identifier characters that are none (`isLoose`) are dollar signs and characters beyond ASCII. So a
report is about a whole identifier unless such a character touches the word (`reports_words`); of
`$console` it is not (`words_reported_in_longer_names`).
-/

namespace FlowAudit.Rule

open FlowAudit.Text FlowAudit.Source

/-! ### Places in a line -/

/-- A word stands at a place in a line of code: the line is `before`, the word, and `after`, and no
character that would continue the word touches it there. -/
structure Stands (continues : Char → Bool) (word code before after : List Char) : Prop where
  cut : code = before ++ (word ++ after)
  left : ∀ c ∈ before.getLast?, continues c = false
  right : ∀ c ∈ after.head?, continues c = false

/-- The places of a line are as many as its characters and one, so a word can be looked for. -/
theorem exists_stands_iff {continues : Char → Bool} {word code : List Char} :
    (∃ before after, Stands continues word code before after) ↔
      ∃ place ∈ List.range (code.length + 1), word.isPrefixOf (code.drop place) = true ∧
        (code.take place).getLast?.all (fun c => !continues c) = true ∧
        (code.drop (place + word.length)).head?.all (fun c => !continues c) = true := by
  simp only [List.isPrefixOf_iff_prefix, Option.all_eq_true, Bool.not_eq_true', List.mem_range]
  constructor
  · rintro ⟨before, after, cut, left, right⟩
    have within : before.length < code.length + 1 := by
      rw [cut, List.length_append]
      omega
    refine ⟨before.length, within, ?_, ?_, ?_⟩
    · simp [cut]
    · simpa [cut] using left
    · simpa [cut] using right
  · rintro ⟨place, -, ⟨after, found⟩, left, right⟩
    refine ⟨code.take place, after, ?_, left, ?_⟩
    · rw [found, List.take_append_drop]
    · rw [← List.drop_drop, ← found, List.drop_left] at right
      exact right

instance (continues : Char → Bool) (word code : List Char) :
    Decidable (∃ before after, Stands continues word code before after) :=
  decidable_of_iff _ exists_stands_iff.symm

/-- Finding at every position is finding at one, with the character before it. -/
theorem mem_findAll {α : Type} {find : Option Char → List Char → Option α} {before : Option Char}
    {text : List Char} {a : α} :
    a ∈ findAll find before text ↔
      ∃ first rest, text = first ++ rest ∧ find (first.getLast?.or before) rest = some a := by
  induction text generalizing before with
  | nil =>
      rw [findAll, Option.mem_toList]
      constructor
      · intro found
        exact ⟨[], [], rfl, found⟩
      · rintro ⟨first, rest, cut, found⟩
        obtain ⟨rfl, rfl⟩ := List.append_eq_nil_iff.mp cut.symm
        exact found
  | cons c text ih =>
      have last (first : List Char) :
          (c :: first).getLast?.or before = first.getLast?.or (some c) := by
        rw [List.getLast?_cons]
        cases first.getLast? <;> rfl
      rw [findAll, List.mem_append, Option.mem_toList, ih]
      constructor
      · rintro (here | ⟨first, rest, rfl, found⟩)
        · exact ⟨[], c :: text, rfl, here⟩
        · exact ⟨c :: first, rest, rfl, by rw [last, found]⟩
      · rintro ⟨first, rest, cut, found⟩
        cases first with
        | nil =>
            obtain rfl : c :: text = rest := cut
            exact Or.inl found
        | cons d first =>
            obtain ⟨rfl, rfl⟩ := List.cons.inj cut
            rw [last] at found
            exact Or.inr ⟨first, rest, rfl, found⟩

theorem startsWord_iff {before : Option Char} :
    startsWord before = true ↔ ∀ c ∈ before, isWordChar c = false := by
  simp [startsWord, Option.all_eq_true]

theorem endsWord_iff {rest : List Char} :
    endsWord rest = true ↔ ∀ c ∈ rest.head?, isWordChar c = false := by
  simp [endsWord, Option.all_eq_true]

theorem startsFree_iff {before : Option Char} :
    startsFree before = true ↔ ∀ c ∈ before, isWordChar c = false ∧ c ≠ '$' ∧ c ≠ '.' := by
  simp [startsFree, isWordOrDollar, Option.all_eq_true, and_assoc]

/-! ### Blanks continue nothing -/

/-- All blanks there are. -/
def blanks : List Char :=
  (List.range' 0x9 5 ++ [0x20, 0x85, 0xa0, 0x1680] ++ List.range' 0x2000 11 ++
    [0x2028, 0x2029, 0x202f, 0x205f, 0x3000]).map Char.ofNat

theorem mem_blanks {c : Char} (blank : isBlank c = true) : c ∈ blanks := by
  refine List.mem_map.mpr ⟨c.toNat, ?_, Char.ofNat_toNat c⟩
  simp only [isBlank, Bool.or_eq_true, Bool.and_eq_true, beq_iff_eq, decide_eq_true_eq] at blank
  simp only [List.mem_append, List.mem_range'_1, List.mem_cons, List.not_mem_nil, or_false]
  rcases blank with ((((((((((rfl | low) | rfl) | rfl) | rfl) | high) | rfl) | rfl) | rfl) | rfl) | rfl)
  · decide
  · have first : '\t'.toNat ≤ c.toNat := low.1
    have last : c.toNat ≤ '\r'.toNat := low.2
    simp only [Char.reduceToNat] at first last
    omega
  · decide
  · decide
  · decide
  · have first : '\u2000'.toNat ≤ c.toNat := high.1
    have last : c.toNat ≤ '\u200a'.toNat := high.2
    simp only [Char.reduceToNat] at first last
    omega
  · decide
  · decide
  · decide
  · decide
  · decide

/-- Looking a character up in a table by its code point alone. -/
theorem inRanges_eq (ranges : Array (Nat × Nat)) (c : Char) :
    inRanges ranges c =
      ranges.toList.any fun r => Nat.ble r.1 c.toNat && Nat.ble c.toNat r.2 := by
  rw [inRanges, ← Array.any_toList]
  congr 1
  funext r
  exact Bool.eq_iff_iff.mpr (by simp)

/-- A blank continues neither an identifier nor a word. -/
theorem continues_of_isBlank {c : Char} (blank : isBlank c = true) :
    isIdentChar c = false ∧ isWordChar c = false := by
  have none : blanks.all (fun c => !(isIdentChar c || isWordChar c)) = true := by
    simp only [isIdentChar, isAlphanumeric, isWordChar, inRanges_eq]
    decide +kernel
  have apart := List.all_eq_true.mp none c (mem_blanks blank)
  rw [Bool.not_eq_true'] at apart
  exact Bool.or_eq_false_iff.mp apart

/-! ### Calls -/

namespace CallFamily

variable {family : CallFamily}

/-- What follows the object of a call: a dot, a method of the family and a parenthesis, with blanks
before each of them. -/
inductive Follows (family : CallFamily) (method : List Char) : List Char → Prop
  | intro {first second third rest : List Char} (member : method ∈ family.methods)
      (blank : allBlank first = true) (blank' : allBlank second = true)
      (blank'' : allBlank third = true) :
      family.Follows method (first ++ '.' :: (second ++ (method ++ (third ++ '(' :: rest))))

/-- A call of a family stands at a place in a line of code. -/
structure CalledAt (family : CallFamily) (code before after : List Char) : Prop where
  cut : code = before ++ (family.object ++ after)
  left : ∀ c ∈ before.getLast?, isWordChar c = false
  method : ∃ method, family.Follows method after

/-- The object of a call is not continued by what follows it. -/
theorem Follows.apart {method after : List Char} (follows : family.Follows method after) :
    ∀ c ∈ after.head?, isIdentChar c = false ∧ isWordChar c = false := by
  intro c head
  cases follows with
  | @intro first second third rest member blank _ _ =>
      cases first with
      | nil =>
          obtain rfl : '.' = c := by simpa using head
          decide
      | cons d first =>
          obtain rfl : d = c := by simpa using head
          exact continues_of_isBlank (List.all_eq_true.mp blank d (List.mem_cons_self ..))

theorem CalledAt.stands {code before after : List Char} (called : family.CalledAt code before after) :
    Stands isWordChar family.object code before after := by
  obtain ⟨cut, left, method, follows⟩ := called
  exact ⟨cut, left, fun c head => (follows.apart c head).2⟩

/-- The methods of a family begin with a character that is no blank. -/
def Legible (family : CallFamily) : Prop :=
  ∀ method ∈ family.methods, method.head?.any (fun c => !isBlank c) = true

theorem legible_consoleCalls : consoleCalls.Legible := by unfold Legible; decide

theorem legible_hostCalls : hostCalls.Legible := by unfold Legible; decide

theorem follows_of_methodAt? {text method : List Char} (found : family.methodAt? text = some method) :
    ∃ after, text = family.object ++ after ∧ family.Follows method after := by
  obtain ⟨after, object, found⟩ := Option.bind_eq_some_iff.mp found
  obtain ⟨rest, dot, found⟩ := Option.bind_eq_some_iff.mp found
  refine ⟨after, afterPrefix?_eq_some.mp object, ?_⟩
  obtain ⟨first, blank, hafter⟩ := exists_blanks_trimStart after
  obtain ⟨second, blank', hrest⟩ := exists_blanks_trimStart rest
  have member := List.mem_of_find?_eq_some found
  have called := List.find?_some found
  rw [afterPrefix?_eq_some] at dot
  cases named : afterPrefix? method (trimStart rest) with
  | none => simp [named] at called
  | some more =>
      obtain ⟨third, blank'', hmore⟩ := exists_blanks_trimStart more
      have paren : (trimStart more).head? = some '(' := by simpa [named] using called
      obtain ⟨last, hlast⟩ := List.head?_eq_some_iff.mp paren
      rw [hafter, dot, hrest, afterPrefix?_eq_some.mp named, hmore, hlast]
      exact .intro member blank blank' blank''

theorem exists_methodAt? (legible : family.Legible) {method after : List Char}
    (follows : family.Follows method after) :
    ∃ found, family.methodAt? (family.object ++ after) = some found := by
  cases follows with
  | @intro first second third rest member blank blank' blank'' =>
      obtain ⟨c, name, rfl⟩ : ∃ c name, method = c :: name := by
        cases method with
        | nil => exact absurd (legible [] member) (by simp)
        | cons c name => exact ⟨c, name, rfl⟩
      have visible : isBlank c = false := by simpa using legible _ member
      have dot : trimStart (first ++ '.' :: (second ++ (c :: name ++ (third ++ '(' :: rest)))) =
          '.' :: (second ++ (c :: name ++ (third ++ '(' :: rest))) :=
        trimStart_append blank (by simp; decide)
      have named : trimStart (second ++ (c :: name ++ (third ++ '(' :: rest))) =
          c :: name ++ (third ++ '(' :: rest) :=
        trimStart_append blank' (by simpa using visible)
      have paren : trimStart (third ++ '(' :: rest) = '(' :: rest :=
        trimStart_append blank'' (by simp; decide)
      have afterDot (text : List Char) : afterPrefix? ['.'] ('.' :: text) = some text :=
        afterPrefix?_eq_some.mpr rfl
      rw [← Option.isSome_iff_exists, methodAt?, afterPrefix?_eq_some.mpr rfl]
      simp only [Option.bind_eq_bind, Option.bind_some, dot, afterDot, named]
      -- The method at hand passes the test, so some method does.
      refine List.find?_isSome.mpr ⟨c :: name, member, ?_⟩
      rw [afterPrefix?_eq_some.mpr rfl]
      simp [paren]

/-- **The calls of a line**: each one that is found stands somewhere, and if one stands somewhere, one is
found. -/
theorem callsIn_ne_nil_iff (legible : family.Legible) {code : List Char} :
    family.callsIn code ≠ [] ↔ ∃ before after, family.CalledAt code before after := by
  constructor
  · intro found
    obtain ⟨method, member⟩ := List.exists_mem_of_ne_nil _ found
    obtain ⟨before, rest, rfl, at_⟩ := mem_findAll.mp member
    rw [Option.or_none] at at_
    split at at_
    · next starts =>
        obtain ⟨after, rfl, follows⟩ := follows_of_methodAt? at_
        exact ⟨before, after, rfl, startsWord_iff.mp starts, method, follows⟩
    · exact absurd at_ (by simp)
  · rintro ⟨before, after, rfl, left, method, follows⟩
    obtain ⟨found, hfound⟩ := exists_methodAt? legible follows
    refine List.ne_nil_of_mem (mem_findAll.mpr ⟨before, _, rfl, ?_⟩) (a := found)
    rw [Option.or_none, if_pos (startsWord_iff.mpr left), hfound]

end CallFamily

/-! ### Breakpoints -/

/-- The word that stops a program in a debugger. -/
def breakpoint : List Char := "debugger".toList

/-- The word stands at a place in a line of code, and it is neither part of a name with a dollar sign
before it nor a property. -/
structure DebuggerAt (code before after : List Char) : Prop where
  stands : Stands isWordChar breakpoint code before after
  free : ∀ c ∈ before.getLast?, c ≠ '$' ∧ c ≠ '.'

theorem freeWords_breakpoint_iff {code : List Char} :
    freeWords [breakpoint] code ≠ [] ↔ ∃ before after, DebuggerAt code before after := by
  have single (text : List Char) : afterWord? [breakpoint] text =
      (afterPrefix? breakpoint text).bind fun rest =>
        if endsWord rest then some (breakpoint, rest) else none := by
    rw [afterWord?, List.findSome?_cons]
    cases afterPrefix? breakpoint text with
    | none => rfl
    | some rest => cases ends : endsWord rest <;> simp [ends]
  constructor
  · intro found
    obtain ⟨word, member⟩ := List.exists_mem_of_ne_nil _ found
    obtain ⟨before, rest, rfl, at_⟩ := mem_findAll.mp member
    rw [Option.or_none] at at_
    split at at_
    · next starts =>
        have free := startsFree_iff.mp starts
        rw [single] at at_
        obtain ⟨pair, found, -⟩ := Option.map_eq_some_iff.mp at_
        obtain ⟨after, hrest, ends⟩ := Option.bind_eq_some_iff.mp found
        rw [afterPrefix?_eq_some] at hrest
        split at ends
        · next closed =>
            exact ⟨before, after,
              ⟨by rw [hrest], fun c last => (free c last).1, endsWord_iff.mp closed⟩,
              fun c last => (free c last).2⟩
        · exact absurd ends (by simp)
    · exact absurd at_ (by simp)
  · rintro ⟨before, after, ⟨rfl, left, right⟩, free⟩
    refine List.ne_nil_of_mem (mem_findAll.mpr ⟨before, _, rfl, ?_⟩) (a := breakpoint)
    have starts : startsFree before.getLast? = true :=
      startsFree_iff.mpr fun c last => ⟨left c last, free c last⟩
    rw [Option.or_none, if_pos starts, single, afterPrefix?_eq_some.mpr rfl, Option.bind_some,
      if_pos (endsWord_iff.mpr right)]
    rfl

/-! ### Reports -/

/-- Issues report the places of lines that a predicate describes: every issue is at a line with such a
place, and every line with such a place has an issue. -/
structure ReportsPlaces (place : List Char → List Char → List Char → Prop) (lines : List Line)
    (issues : List Issue) : Prop where
  sound : ∀ issue ∈ issues, ∃ line ∈ lines, issue.line = some line.number ∧
    ∃ before after, place line.code before after
  complete : ∀ line ∈ lines, ∀ before after, place line.code before after →
    ∃ issue ∈ issues, issue.line = some line.number

/-- A rule that reports one issue for each call of a family. -/
theorem reportsPlaces_calls {family : CallFamily} (legible : family.Legible)
    {report : Line → List Char → Issue}
    (located : ∀ line method, (report line method).line = some line.number) (lines : List Line) :
    ReportsPlaces family.CalledAt lines
      (lines.flatMap fun line => (family.callsIn line.code).map (report line)) where
  sound := by
    intro issue member
    obtain ⟨line, within, found⟩ := List.mem_flatMap.mp member
    obtain ⟨method, called, rfl⟩ := List.mem_map.mp found
    exact ⟨line, within, located line method,
      (CallFamily.callsIn_ne_nil_iff legible).mp (List.ne_nil_of_mem called)⟩
  complete := by
    intro line within before after called
    have found := (CallFamily.callsIn_ne_nil_iff legible).mpr ⟨before, after, called⟩
    obtain ⟨method, member⟩ := List.exists_mem_of_ne_nil _ found
    exact ⟨report line method,
      List.mem_flatMap.mpr ⟨line, within, List.mem_map.mpr ⟨method, member, rfl⟩⟩,
      located line method⟩

theorem reportsBreakpoint_iff {line : Line} :
    (!(freeWords [breakpoint] line.code).isEmpty) = true ↔
      ∃ before after, DebuggerAt line.code before after := by
  rw [← freeWords_breakpoint_iff]
  simp

theorem reportsPlaces_debuggerStatement (lines : List Line) :
    ReportsPlaces DebuggerAt lines (debuggerStatement lines) where
  sound := by
    intro issue member
    obtain ⟨line, found, rfl⟩ := List.mem_map.mp member
    obtain ⟨within, stands⟩ := List.mem_filter.mp found
    exact ⟨line, within, rfl, reportsBreakpoint_iff.mp stands⟩
  complete := by
    intro line within before after stands
    have found := reportsBreakpoint_iff.mpr ⟨before, after, stands⟩
    exact ⟨_, List.mem_map.mpr ⟨line, List.mem_filter.mpr ⟨within, found⟩, rfl⟩, rfl⟩

/-! ### Words and identifiers -/

/-- A character of identifiers that is no character of words. -/
def isLoose (c : Char) : Bool :=
  isIdentChar c && !isWordChar c

/-- Among the ASCII characters only the dollar sign is one. -/
theorem isLoose_ascii {c : Char} (ascii : c.toNat < 128) : isLoose c = true ↔ c = '$' := by
  have dollar : isWordChar '$' = false := by decide
  constructor
  · intro loose
    simp only [isLoose, isIdentChar, isAlphanumeric, isWordChar, ascii, if_true, Bool.and_eq_true,
      Bool.or_eq_true, Bool.not_eq_true', Bool.or_eq_false_iff, beq_iff_eq] at loose
    grind
  · rintro rfl
    simp [isLoose, isIdentChar, dollar]

/-- Where no word is continued, an identifier is continued by loose characters only. -/
theorem not_isIdentChar_iff {c : Char} (apart : isWordChar c = false) :
    isIdentChar c = false ↔ isLoose c = false := by
  simp [isLoose, apart]

/-- **What the three rules report**: the lines of a source on which a call of their family, or the word
for a breakpoint, stands apart from word characters. It stands there as an identifier of its own exactly
if no loose character touches it; after the object of a call no such character comes anyway. -/
theorem reports_words (source : List Char) :
    ReportsPlaces consoleCalls.CalledAt (maskSource source) (consoleLog (maskSource source)) ∧
    ReportsPlaces hostCalls.CalledAt (maskSource source) (nodeWarn (maskSource source)) ∧
    ReportsPlaces DebuggerAt (maskSource source) (debuggerStatement (maskSource source)) ∧
    (∀ (family : CallFamily) (code before after : List Char), family.CalledAt code before after →
      (Stands isIdentChar family.object code before after ↔
        ∀ c ∈ before.getLast?, isLoose c = false)) ∧
    (∀ code before after : List Char, DebuggerAt code before after →
      (Stands isIdentChar breakpoint code before after ↔
        (∀ c ∈ before.getLast?, isLoose c = false) ∧ ∀ c ∈ after.head?, isLoose c = false)) ∧
    ∀ c : Char, c.toNat < 128 → (isLoose c = true ↔ c = '$') := by
  refine ⟨reportsPlaces_calls CallFamily.legible_consoleCalls (fun _ _ => rfl) _,
    reportsPlaces_calls CallFamily.legible_hostCalls (fun _ _ => rfl) _,
    reportsPlaces_debuggerStatement _, ?_, ?_, fun c ascii => isLoose_ascii ascii⟩
  · intro family code before after called
    obtain ⟨cut, left, method, follows⟩ := called
    constructor
    · intro whole c last
      exact (not_isIdentChar_iff (left c last)).mp (whole.left c last)
    · intro tight
      exact ⟨cut, fun c last => (not_isIdentChar_iff (left c last)).mpr (tight c last),
        fun c head => (follows.apart c head).1⟩
  · intro code before after stands
    obtain ⟨⟨cut, left, right⟩, -⟩ := stands
    constructor
    · intro whole
      exact ⟨fun c last => (not_isIdentChar_iff (left c last)).mp (whole.left c last),
        fun c head => (not_isIdentChar_iff (right c head)).mp (whole.right c head)⟩
    · rintro ⟨before, after⟩
      exact ⟨cut, fun c last => (not_isIdentChar_iff (left c last)).mpr (before c last),
        fun c head => (not_isIdentChar_iff (right c head)).mpr (after c head)⟩

/-- A call with blanks in it, after a longer name that ends in the same word. -/
theorem reports_words_spaced :
    ∃ line, maskSource "mynode.warn(a); node\t. warn (b);".toList = [line] ∧
      hostCalls.CalledAt line.code "mynode.warn(a); ".toList "\t. warn (b);".toList ∧
      (∃ issue ∈ nodeWarn (maskSource "mynode.warn(a); node\t. warn (b);".toList),
        issue.line = some line.number) ∧
      Stands isIdentChar hostCalls.object line.code "mynode.warn(a); ".toList
        "\t. warn (b);".toList := by
  have space : ∀ c ∈ "mynode.warn(a); ".toList.getLast?, c = ' ' := fun c last =>
    (Option.some.inj last).symm
  have called : hostCalls.CalledAt "mynode.warn(a); node\t. warn (b);".toList
      "mynode.warn(a); ".toList "\t. warn (b);".toList := by
    refine ⟨by decide, fun c last => ?_, "warn".toList,
      @CallFamily.Follows.intro hostCalls _ ['\t'] [' '] [' '] "b);".toList (by decide) (by decide)
        (by decide) (by decide)⟩
    obtain rfl := space c last
    decide
  obtain ⟨-, reports, -, whole, -⟩ :=
    reports_words "mynode.warn(a); node\t. warn (b);".toList
  refine ⟨_, rfl, called, reports.complete _ (List.mem_cons_self ..) _ _ called,
    (whole _ _ _ _ called).mpr fun c last => ?_⟩
  obtain rfl := space c last
  decide

/-- With a dollar sign, which is a character of identifiers, the words are parts of longer names; the
rules report them all the same. -/
theorem words_reported_in_longer_names :
    (∃ line, maskSource "$console.log(1);".toList = [line] ∧
      (consoleLog [line]).map Issue.line = [some line.number] ∧
      ¬ ∃ before after, Stands isIdentChar consoleCalls.object line.code before after) ∧
    ∃ line, maskSource "debugger$ = 1;".toList = [line] ∧
      (debuggerStatement [line]).map Issue.line = [some line.number] ∧
      ¬ ∃ before after, Stands isIdentChar breakpoint line.code before after :=
  ⟨⟨_, rfl, by decide +kernel, by decide +kernel⟩, ⟨_, rfl, by decide +kernel, by decide +kernel⟩⟩

end FlowAudit.Rule
