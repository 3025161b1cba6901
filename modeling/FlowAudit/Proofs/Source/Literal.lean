import FlowAudit.Proofs.Source.Enclosure
import FlowAudit.Proofs.Source.Juncture
import FlowAudit.Rule.Placeholder
import Mathlib.Logic.Relation

/-!
# FlowAudit.Proofs.Source.Literal

**What is recorded of a string.** All literals are read into one buffer, which is emptied when a literal
ends. An interpolation `${` interrupts a template without emptying it, so the first literal that ends
inside is recorded with the text of the template in front of its own.

Code and comments neither write to the buffer nor empty it (`Scan.texts_codeStep`,
`Scan.texts_commentStep`), so text in it there has come through a `${` with nothing but code and comments
since (`Config.exists_hole`). The way of the machine through a source is the relation `Config.Next`, which
goes on over the ends of lines; facts about one move lift to all of it by induction on the moves made.
-/

namespace FlowAudit.Source

/-- The modes outside of literals. -/
def Mode.Plain (mode : Mode) : Prop :=
  mode = .code ∨ mode = .blockComment

namespace Mode

theorem not_plain_quoted (quote : Char) : ¬ Plain (.quoted quote) := by
  simp [Plain]

theorem not_plain_template : ¬ Plain .template := by
  simp [Plain]

theorem plain_or (mode : Mode) :
    mode.Plain ∨ (∃ quote, mode = .quoted quote) ∨ mode = .template := by
  cases mode <;> simp [Plain]

end Mode

namespace Scan

/-! ### What a step does to literals -/

/-- What a state holds of literals: the text being read, and the texts that the line has given. -/
def texts (s : Scan) : List Char × List (List Char) :=
  (s.carry.literal, s.found.literals)

section Texts

variable (s : Scan)

@[simp]
theorem texts_pushCode (c : Char) : (s.pushCode c).texts = s.texts := rfl

@[simp]
theorem texts_pushComment (c : Char) : (s.pushComment c).texts = s.texts := rfl

@[simp]
theorem texts_enter (mode : Mode) : (s.enter mode).texts = s.texts := rfl

@[simp]
theorem texts_skipping (count : Nat) : (s.skipping count).texts = s.texts := rfl

@[simp]
theorem texts_openBrace : s.openBrace.texts = s.texts := by
  unfold openBrace
  split <;> rfl

@[simp]
theorem texts_closeBrace : s.closeBrace.texts = s.texts := by
  unfold closeBrace
  split <;> rfl

/-- Code leaves literals alone. -/
theorem texts_codeStep (c : Char) (rest : List Char) : (s.codeStep c rest).texts = s.texts := by
  unfold codeStep
  split
  · split
    · rfl
    · simp
    · split <;> simp
  · split
    · simp
    · split
      · simp
      · split
        · simp
        · split <;> simp

/-- Comments leave literals alone. -/
theorem texts_commentStep (c : Char) (rest : List Char) :
    (s.commentStep c rest).texts = s.texts := by
  unfold commentStep
  split <;> simp

end Texts

variable {s : Scan}

/-- A step outside of literals leaves them alone. -/
theorem texts_step (plain : s.carry.mode.Plain) (c : Char) (rest : List Char) :
    (s.step c rest).texts = s.texts := by
  unfold step
  split
  · rfl
  · rcases plain with mode | mode
    · rw [mode]
      exact texts_codeStep s c rest
    · rw [mode]
      exact texts_commentStep s c rest

theorem texts_endLine (plain : s.carry.mode.Plain) : s.endLine.texts = s.texts := by
  unfold endLine
  rcases plain with mode | mode
  · rw [mode]
  · rw [mode]
    exact texts_pushComment s '\n'

/-- A step in a plain string stays in it or ends it. -/
theorem quotedStep_cases {quote : Char} (mode : s.carry.mode = .quoted quote) (c : Char)
    (rest : List Char) :
    (s.quotedStep quote c rest).carry.mode = .quoted quote ∨
      (s.quotedStep quote c rest).carry.literal = [] := by
  unfold quotedStep
  split
  · exact Or.inl ((s.mode_escapeStep rest).trans mode)
  · split
    · exact Or.inr rfl
    · exact Or.inl mode

/-- A step in a template stays in it, ends it, or interrupts it. -/
theorem templateStep_cases (mode : s.carry.mode = .template) (c : Char) (rest : List Char) :
    (s.templateStep c rest).carry.mode = .template ∨
      (s.templateStep c rest).carry.literal = [] ∨
        (s.templateStep c rest).carry.literal = s.carry.literal ∧ c = '$' ∧
          rest.head? = some '{' := by
  unfold templateStep
  split
  · exact Or.inl ((s.mode_escapeStep rest).trans mode)
  · split
    · exact Or.inr (Or.inl rfl)
    · split
      · next interrupted => exact Or.inr (Or.inr ⟨rfl, by simpa using interrupted⟩)
      · exact Or.inl mode

/-- **Where the text being read comes from.** After a step that ends outside of literals there is none,
or it was there before: outside of literals too, or in a template that a `${` interrupts. -/
theorem literal_step {c : Char} {rest : List Char} (plain : (s.step c rest).carry.mode.Plain) :
    (s.step c rest).carry.literal = [] ∨
      (s.step c rest).carry.literal = s.carry.literal ∧
        (s.carry.mode.Plain ∨
          s.carry.mode = .template ∧ s.skip = 0 ∧ c = '$' ∧ rest.head? = some '{') := by
  by_cases before : s.carry.mode.Plain
  · exact Or.inr ⟨congrArg Prod.fst (texts_step before c rest), Or.inl before⟩
  cases skip : s.skip with
  | succ count =>
      rw [step_of_skip skip] at plain
      exact absurd plain before
  | zero =>
      rcases s.carry.mode.plain_or with mode | ⟨quote, mode⟩ | mode
      · exact absurd mode before
      · rw [step_quoted c rest mode skip] at plain ⊢
        rcases quotedStep_cases mode c rest with stays | ends
        · rw [stays] at plain
          exact absurd plain (Mode.not_plain_quoted quote)
        · exact Or.inl ends
      · rw [step_template c rest mode skip] at plain ⊢
        rcases templateStep_cases mode c rest with stays | ends | ⟨kept, interrupted⟩
        · rw [stays] at plain
          exact absurd plain Mode.not_plain_template
        · exact Or.inl ends
        · exact Or.inr ⟨kept, Or.inr ⟨mode, rfl, interrupted⟩⟩

/-- The same at the end of a line, which ends a plain string and stays in a template. -/
theorem literal_endLine (plain : s.endLine.carry.mode.Plain) :
    s.endLine.carry.literal = [] ∨
      s.endLine.carry.literal = s.carry.literal ∧ s.carry.mode.Plain := by
  rcases s.carry.mode.plain_or with before | ⟨quote, mode⟩ | mode
  · exact Or.inr ⟨congrArg Prod.fst (texts_endLine before), before⟩
  · have ended : s.endLine = (s.enter .code).closeLiteral := by rw [endLine, mode]
    rw [ended]
    exact Or.inl rfl
  · have stays : s.endLine = s.pushLiteral '\n' := by rw [endLine, mode]
    have kept : (s.pushLiteral '\n').carry.mode = .template := mode
    rw [stays, kept] at plain
    exact absurd plain Mode.not_plain_template

/-! ### What a line has given stays -/

/-- A step at most adds to what the line has given. -/
theorem literals_step (s : Scan) (c : Char) (rest : List Char) :
    s.found.literals <:+ (s.step c rest).found.literals := by
  have escaped : s.found.literals <:+ (s.escapeStep rest).found.literals := by
    cases rest <;> exact List.suffix_rfl
  rcases s.carry.mode.plain_or with plain | ⟨quote, mode⟩ | mode
  · have kept : (s.step c rest).found.literals = s.found.literals :=
      congrArg Prod.snd (texts_step plain c rest)
    exact kept ▸ List.suffix_rfl
  · unfold step
    split
    · exact List.suffix_rfl
    · rw [mode]
      dsimp only
      unfold quotedStep
      split
      · exact escaped
      · split
        · exact List.suffix_cons _ _
        · exact List.suffix_rfl
  · unfold step
    split
    · exact List.suffix_rfl
    · rw [mode]
      dsimp only
      unfold templateStep
      split
      · exact escaped
      · split
        · exact List.suffix_cons _ _
        · split <;> exact List.suffix_rfl

theorem literals_run (s : Scan) (text : List Char) :
    s.found.literals <:+ (s.run text).found.literals := by
  induction text generalizing s with
  | nil => exact List.suffix_rfl
  | cons c rest ih => exact (literals_step s c rest).trans (ih _)

theorem literals_endLine (s : Scan) : s.found.literals <:+ s.endLine.found.literals := by
  unfold endLine
  split
  · exact List.suffix_rfl
  · exact List.suffix_cons _ _
  · exact List.suffix_rfl
  · exact List.suffix_rfl

/-- The machine comes out of a string with one more literal: the text in the buffer and its own. -/
theorem literals_past (s : Scan) (quote : Char) (body : List Char) :
    (s.past (.quoted quote) body).found.literals =
      (s.carry.literal.reverse ++ body) :: s.found.literals := by
  show (body.reverse ++ s.carry.literal).reverse :: s.found.literals = _
  rw [List.reverse_append, List.reverse_reverse]

end Scan

/-! ### The way of the machine through a source -/

/-- The machine on its way: its state, what is left of the line, and the lines after it. -/
structure Config where
  scan : Scan
  rest : List Char
  later : List (List Char)
  deriving Repr, DecidableEq

namespace Config

/-- One move, past a character or on to the next line. -/
inductive Next : Config → Config → Prop
  | character (s : Scan) (c : Char) (rest : List Char) (later : List (List Char)) :
      Next ⟨s, c :: rest, later⟩ ⟨s.step c rest, rest, later⟩
  | line (s : Scan) (raw : List Char) (later : List (List Char)) :
      Next ⟨s, [], raw :: later⟩ ⟨{ carry := s.endLine.carry }, raw, later⟩

/-- Before the first line. -/
def start (source : List Char) : Config :=
  ⟨{ carry := {} }, [], rawLines source⟩

/-- The machine comes to `here` when it masks the source. -/
def Reached (here : Config) (source : List Char) : Prop :=
  Relation.ReflTransGen Next (start source) here

/-- The machine at a position of a source. -/
def position (before rest : List Char) : Config :=
  ⟨scanAt before rest, lineEnd rest, linesAfter rest⟩

theorem reaches_before (s : Scan) (before rest : List Char) (later : List (List Char)) :
    Relation.ReflTransGen Next ⟨s, before ++ rest, later⟩ ⟨s.runBefore rest before, rest, later⟩ := by
  induction before generalizing s with
  | nil => exact .refl
  | cons c more ih => exact .head (.character s c (more ++ rest) later) (ih _)

theorem reaches_run (s : Scan) (text : List Char) (later : List (List Char)) :
    Relation.ReflTransGen Next ⟨s, text, later⟩ ⟨s.run text, [], later⟩ := by
  have whole := reaches_before s text [] later
  have same := s.run_append text []
  rw [List.append_nil] at whole same
  rw [same]
  exact whole

theorem reaches_lines (s : Scan) (first : List (List Char)) (raw : List Char)
    (later : List (List Char)) :
    Relation.ReflTransGen Next ⟨s, [], first ++ raw :: later⟩
      ⟨{ carry := carryAfter s.endLine.carry first }, raw, later⟩ := by
  induction first generalizing s with
  | nil => exact .single (.line s raw later)
  | cons next rest ih =>
      have moved := Next.line s next (rest ++ raw :: later)
      exact .head moved ((reaches_run _ next _).trans (ih _))

/-- The machine comes by every position of a source that is not right before a line feed. -/
theorem reached_position (before : List Char) {c : Char} (hc : c ≠ '\n') (rest : List Char) :
    (position before (c :: rest)).Reached (before ++ c :: rest) := by
  rw [Reached, start, rawLines_append before hc, position]
  exact (reaches_lines _ _ _ _).trans (reaches_before _ _ _ _)

/-- Wherever the machine comes, no literal is left over. -/
theorem Reached.settled {source : List Char} {here : Config} (reached : here.Reached source) :
    here.scan.carry.Settled := by
  induction reached with
  | refl => exact .start
  | tail _ move ih =>
      cases move with
      | character s c rest later => exact Scan.settled_step ih c rest
      | line s raw later => exact Scan.settled_endLine ih

/-! ### Text that no literal has been recorded with -/

/-- The text in the buffer. -/
def unrecorded (here : Config) : List Char :=
  here.scan.carry.literal.reverse

/-- The machine is in code or in a comment. -/
def Plain (here : Config) : Prop :=
  here.scan.carry.mode.Plain

/-- A `${` in the text of a template. -/
def Hole (here : Config) : Prop :=
  here.scan.carry.mode = .template ∧ here.scan.skip = 0 ∧ ∃ more, here.rest = '$' :: '{' :: more

/-- A move from code or a comment. -/
def NextPlain (here next : Config) : Prop :=
  here.Plain ∧ Next here next

/-- From a `${` there is nothing but code and comments up to here. -/
def OpensTo (hole here : Config) : Prop :=
  hole.Hole ∧ ∃ first, Next hole first ∧ Relation.ReflTransGen NextPlain first here

variable {source : List Char} {hole here next : Config}

/-- A move from code or a comment leaves the buffer alone. -/
theorem unrecorded_of_plain (plain : here.Plain) (move : Next here next) :
    next.unrecorded = here.unrecorded := by
  cases move with
  | character s c rest later =>
      exact congrArg (fun texts => texts.1.reverse) (Scan.texts_step plain c rest)
  | line s raw later =>
      exact congrArg (fun texts => texts.1.reverse) (Scan.texts_endLine plain)

/-- A move into code or a comment empties the buffer, or comes from code, a comment or a `${` with what
was in it. -/
theorem unrecorded_cases (move : Next here next) (plain : next.Plain) :
    next.unrecorded = [] ∨
      next.unrecorded = here.unrecorded ∧ (here.Plain ∨ here.Hole) := by
  cases move with
  | character s c rest later =>
      rcases Scan.literal_step plain with ended | ⟨kept, before | ⟨mode, fresh, rfl, brace⟩⟩
      · exact Or.inl (congrArg List.reverse ended)
      · exact Or.inr ⟨congrArg List.reverse kept, Or.inl before⟩
      · obtain ⟨more, rfl⟩ := List.head?_eq_some_iff.mp brace
        exact Or.inr ⟨congrArg List.reverse kept, Or.inr ⟨mode, fresh, more, rfl⟩⟩
  | line s raw later =>
      rcases Scan.literal_endLine plain with ended | ⟨kept, before⟩
      · exact Or.inl (congrArg List.reverse ended)
      · exact Or.inr ⟨congrArg List.reverse kept, Or.inl before⟩

/-- From a `${` on, code and comments carry the text of the template in front of it. -/
theorem OpensTo.unrecorded (opens : hole.OpensTo here) : here.unrecorded = hole.unrecorded := by
  obtain ⟨⟨mode, fresh, more, hrest⟩, first, move, path⟩ := opens
  induction path with
  | refl =>
      cases move with
      | character s c rest later =>
          obtain ⟨rfl, rfl⟩ := List.cons.inj hrest
          simp only [Config.unrecorded]
          rw [Scan.step_template _ _ mode fresh]
          rfl
      | line s raw later => exact absurd hrest (by simp)
  | tail _ move ih => rw [unrecorded_of_plain move.1 move.2, ih]

/-- **Text in the buffer in code or a comment** is that of a template in front of its `${`, and since then
there has been nothing but code and comments. -/
theorem exists_hole (reached : here.Reached source) (plain : here.Plain)
    (filled : here.unrecorded ≠ []) : ∃ hole : Config, hole.Reached source ∧ hole.OpensTo here := by
  induction reached with
  | refl => exact absurd rfl filled
  | @tail middle here reached move ih =>
      rcases unrecorded_cases move plain with ended | ⟨kept, before | opens⟩
      · exact absurd ended filled
      · obtain ⟨hole, passed, opens, first, opening, path⟩ := ih before (kept ▸ filled)
        exact ⟨hole, passed, opens, first, opening, path.tail ⟨before, move⟩⟩
      · exact ⟨middle, reached, opens, here, move, .refl⟩

end Config

/-! ### What is recorded of a string -/

/-- At a position the machine comes in code to a plain string, which reaches from quote to quote on one
line and has no backslash in it. -/
structure StringAt (before rest : List Char) (quote : Char) (body : List Char) : Prop where
  code : (scanAt before rest).carry.mode = .code
  fresh : (scanAt before rest).skip = 0
  admits : (Enclosure.quoted quote).Admits body
  stands : (Enclosure.quoted quote).wrap body <+: rest

/-- The first literal that its line gives behind a position is recorded as `entry`. -/
def Records (before rest entry : List Char) : Prop :=
  ∃ line later, (maskSource (before ++ rest))[(linesBefore before).length]? = some line ∧
    line.literals = (scanAt before rest).found.literals.reverse ++ entry :: later

section

variable {before rest : List Char}

theorem Records.unique {entry entry' : List Char} (h : Records before rest entry)
    (h' : Records before rest entry') : entry = entry' := by
  obtain ⟨line, later, found, literals⟩ := h
  obtain ⟨line', later', found', literals'⟩ := h'
  obtain rfl := Option.some.inj (found.symm.trans found')
  exact (List.cons.inj (List.append_cancel_left (literals.symm.trans literals'))).1

/-- The line that a position lies on. -/
theorem getElem?_maskSource (before : List Char) {c : Char} (hc : c ≠ '\n') (rest : List Char) :
    (maskSource (before ++ c :: rest))[(linesBefore before).length]? =
      some (maskLine (carryAfter {} (linesBefore before)) (1 + (linesBefore before).length)
        (lineStart before ++ lineEnd (c :: rest))).1 := by
  have length := length_maskLines {} 1 (linesBefore before)
  rw [maskSource_append before hc, maskLines_cons,
    List.getElem?_append_right (Nat.le_of_eq length), length, Nat.sub_self]
  rfl

namespace StringAt

variable {quote : Char} {body : List Char}

theorem reached (string : StringAt before rest quote body) :
    (Config.position before rest).Reached (before ++ rest) := by
  obtain ⟨-, newline, -⟩ := Enclosure.opening_visible string.admits
  obtain ⟨after, rfl⟩ := string.stands
  exact Config.reached_position before newline (body ++ [quote] ++ after)

/-- A string is recorded with the text in the buffer in front of its own. -/
theorem records (string : StringAt before rest quote body) :
    Records before rest ((Config.position before rest).unrecorded ++ body) := by
  obtain ⟨code, fresh, admits, after, rfl⟩ := string
  obtain ⟨-, newline, -⟩ := Enclosure.opening_visible admits
  let s := scanAt before ((Enclosure.quoted quote).wrap body ++ after)
  let line := Scan.run { carry := carryAfter {} (linesBefore before) }
    (lineStart before ++ lineEnd ((Enclosure.quoted quote).wrap body ++ after))
  have read : line = (s.past (.quoted quote) body).run (lineEnd after) := by
    simp only [line, s]
    rw [run_lineStart_append, Enclosure.lineEnd_wrap admits nofun,
      Scan.run_wrap code fresh admits nofun]
  -- What follows the string on its line at most adds to the literals.
  have grows : (s.past (.quoted quote) body).found.literals <:+ line.endLine.found.literals := by
    rw [read]
    exact (Scan.literals_run _ _).trans (Scan.literals_endLine _)
  obtain ⟨later, hlater⟩ := grows
  refine ⟨_, later.reverse, getElem?_maskSource before newline (body ++ [quote] ++ after), ?_⟩
  show line.endLine.found.literals.reverse =
    s.found.literals.reverse ++ (s.carry.literal.reverse ++ body) :: later.reverse
  rw [← hlater, Scan.literals_past, List.reverse_append, List.reverse_cons, List.append_assoc]
  rfl

/-- Outside of interpolations there is no text in the buffer. -/
theorem unrecorded_of_outermost (string : StringAt before rest quote body)
    (outermost : (scanAt before rest).carry.interpolations = []) :
    (Config.position before rest).unrecorded = [] :=
  congrArg List.reverse (string.reached.settled (Or.inl string.code) outermost)

end StringAt

end

/-- **What is recorded of a string.** Its text, and in front of it the text in the buffer. That is the
text of a template in front of its `${` when there is nothing but code and comments between the `${` and
the string. So the text alone is recorded if and only if there is no such `${` with text in front of it,
and always outside of interpolations. -/
theorem string_recorded {before rest : List Char} {quote : Char} {body : List Char}
    (string : StringAt before rest quote body) :
    Records before rest ((Config.position before rest).unrecorded ++ body) ∧
      (∀ hole : Config, hole.OpensTo (.position before rest) →
        (Config.position before rest).unrecorded = hole.unrecorded) ∧
      (Records before rest body ↔
        ∀ hole : Config, hole.Reached (before ++ rest) → hole.OpensTo (.position before rest) →
          hole.unrecorded = []) ∧
      ((scanAt before rest).carry.interpolations = [] → Records before rest body) := by
  have records := string.records
  have exact_of_empty : (Config.position before rest).unrecorded = [] → Records before rest body := by
    intro empty
    rw [empty] at records
    exact records
  refine ⟨records, fun hole => Config.OpensTo.unrecorded, ⟨?_, ?_⟩, ?_⟩
  · intro exactly hole _ opens
    have same := records.unique exactly
    have empty : (Config.position before rest).unrecorded = [] := by simpa using same
    rw [← opens.unrecorded, empty]
  · intro none_filled
    apply exact_of_empty
    by_contra filled
    obtain ⟨hole, passed, opens⟩ := Config.exists_hole string.reached (Or.inl string.code) filled
    exact filled (opens.unrecorded.trans (none_filled hole passed opens))
  · intro outermost
    exact exact_of_empty (string.unrecorded_of_outermost outermost)

/-- A string on the second line of an interpolation, after the first half of a template. -/
theorem string_recorded_second_line :
    let before := "let a = `id $\x7bf(\n".toList
    let rest := "\"b\") + 'c' \x7d`".toList
    StringAt before rest '"' ['b'] ∧ Records before rest "id b".toList := by
  intro before rest
  have string : StringAt before rest '"' ['b'] :=
    ⟨by decide +kernel, by decide +kernel, by simp [Enclosure.Admits], ⟨_, rfl⟩⟩
  have text : (Config.position before rest).unrecorded = "id ".toList := by decide +kernel
  have recorded := (string_recorded string).1
  rw [text] at recorded
  exact ⟨string, recorded⟩

/-- In the source "`abc${'test'}`" the string is recorded as "abctest", and so no placeholder value is
reported, as it is for the same string in code. -/
theorem string_recorded_with_template_text :
    let before := "`abc$\x7b".toList
    let rest := "'test'\x7d`".toList
    StringAt before rest '\'' "test".toList ∧ ¬ Records before rest "test".toList ∧
      Rule.hardcodedTest (maskSource (before ++ rest)) = [] ∧
      (Rule.hardcodedTest (maskSource "'test'".toList)).length = 1 := by
  intro before rest
  have string : StringAt before rest '\'' "test".toList :=
    ⟨by decide +kernel, by decide +kernel, by simp [Enclosure.Admits], ⟨_, rfl⟩⟩
  refine ⟨string, ?_, by decide +kernel, by decide +kernel⟩
  intro exactly
  have same : (Config.position before rest).unrecorded ++ "test".toList = "test".toList :=
    string.records.unique exactly
  exact absurd same (by decide +kernel)

end FlowAudit.Source
