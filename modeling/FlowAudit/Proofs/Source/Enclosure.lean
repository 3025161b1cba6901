import FlowAudit.Proofs.Source.Position
import Mathlib.Data.List.Forall2

/-!
# FlowAudit.Proofs.Source.Enclosure

**Text that is no code.** Plain strings, template text and comments stand in code between delimiters
(`Enclosure.wrap`). When the machine comes to one in code, it comes out of it in a state that the
text between the delimiters has no part in, save for one `Channel`: the literals for strings and
templates, the comment text for comments (`Scan.run_wrap`, `Scan.past_without`).

What a machine does never depends on a channel: both are only written (`Scan.run_without`). So two
sources that differ in an enclosed text differ in one masked line, and there in the line as it stands
and in the channel only (`maskSource_wrap`). The text is on one line, so what comes before and after
it is masked alike.
-/

namespace FlowAudit.Source

open FlowAudit.Text

/-! ### Channels -/

/-- The two kinds of text that masking takes out of the code of a line. -/
inductive Channel where
  | comment
  | literals
  deriving Repr, DecidableEq

/-- What a line has given, without one channel. -/
def Found.without (hidden : Channel) (found : Found) : Found :=
  match hidden with
  | .comment => { found with comment := [] }
  | .literals => { found with literals := [] }

/-- A state without what one channel holds. -/
def Scan.without (hidden : Channel) (s : Scan) : Scan :=
  { s with found := s.found.without hidden }

/-- Two lines that agree in everything but the line as it stands and one channel. The former is
still blank in both or in neither. -/
structure Line.SameBut (hidden : Channel) (a b : Line) : Prop where
  number : a.number = b.number
  code : a.code = b.code
  depth : a.depth = b.depth
  blank : a.isBlank = b.isBlank
  comment : hidden ≠ .comment → a.comment = b.comment
  literals : hidden ≠ .literals → a.literals = b.literals

theorem Line.SameBut.refl (hidden : Channel) (a : Line) : a.SameBut hidden a :=
  ⟨rfl, rfl, rfl, rfl, fun _ => rfl, fun _ => rfl⟩

namespace Scan

section Without

variable (hidden : Channel) (s : Scan)

@[simp]
theorem without_carry : (s.without hidden).carry = s.carry := rfl

@[simp]
theorem without_skip : (s.without hidden).skip = s.skip := rfl

@[simp]
theorem without_code : (s.without hidden).found.code = s.found.code := by
  cases hidden <;> rfl

@[simp]
theorem without_without : (s.without hidden).without hidden = s.without hidden := by
  cases hidden <;> rfl

theorem pushCode_without (c : Char) :
    (s.without hidden).pushCode c = (s.pushCode c).without hidden := by
  cases hidden <;> rfl

theorem pushComment_without (c : Char) :
    ((s.without hidden).pushComment c).without hidden = (s.pushComment c).without hidden := by
  cases hidden <;> rfl

theorem closeLiteral_without :
    ((s.without hidden).closeLiteral).without hidden = s.closeLiteral.without hidden := by
  cases hidden <;> rfl

theorem openBrace_without : (s.without hidden).openBrace = s.openBrace.without hidden := by
  unfold openBrace
  rw [without_carry]
  exact pushCode_without hidden { s with carry := _ } '{'

theorem closeBrace_without : (s.without hidden).closeBrace = s.closeBrace.without hidden := by
  unfold closeBrace
  rw [without_carry]
  split
  · exact pushCode_without hidden { s with carry := _ } ' '
  · exact pushCode_without hidden { s with carry := _ } '\x7d'
  · exact pushCode_without hidden { s with carry := _ } '\x7d'

theorem escapeStep_without (rest : List Char) :
    (s.without hidden).escapeStep rest = (s.escapeStep rest).without hidden := by
  cases rest <;> rfl

theorem codeStep_without (c : Char) (rest : List Char) :
    ((s.without hidden).codeStep c rest).without hidden = (s.codeStep c rest).without hidden := by
  unfold codeStep
  rw [without_code]
  split
  · split
    · cases hidden <;> rfl
    · cases hidden <;> rfl
    · split
      · cases hidden <;> rfl
      · rw [pushCode_without, without_without]
  · split
    · cases hidden <;> rfl
    · split
      · cases hidden <;> rfl
      · split
        · rw [openBrace_without, without_without]
        · split
          · rw [closeBrace_without, without_without]
          · rw [pushCode_without, without_without]

theorem commentStep_without (c : Char) (rest : List Char) :
    ((s.without hidden).commentStep c rest).without hidden =
      (s.commentStep c rest).without hidden := by
  unfold commentStep
  split
  · cases hidden <;> rfl
  · exact pushComment_without hidden s c

theorem quotedStep_without (quote c : Char) (rest : List Char) :
    ((s.without hidden).quotedStep quote c rest).without hidden =
      (s.quotedStep quote c rest).without hidden := by
  unfold quotedStep
  split
  · rw [escapeStep_without, without_without]
  · split <;> cases hidden <;> rfl

theorem templateStep_without (c : Char) (rest : List Char) :
    ((s.without hidden).templateStep c rest).without hidden =
      (s.templateStep c rest).without hidden := by
  unfold templateStep
  split
  · rw [escapeStep_without, without_without]
  · split
    · cases hidden <;> rfl
    · split <;> cases hidden <;> rfl

/-- A step does not depend on what a channel holds. -/
theorem step_without (c : Char) (rest : List Char) :
    ((s.without hidden).step c rest).without hidden = (s.step c rest).without hidden := by
  unfold step
  rw [without_skip, without_carry]
  split
  · cases hidden <;> rfl
  · split
    · exact codeStep_without hidden s c rest
    · exact commentStep_without hidden s c rest
    · exact quotedStep_without hidden s _ c rest
    · exact templateStep_without hidden s c rest

theorem endLine_without :
    (s.without hidden).endLine.without hidden = s.endLine.without hidden := by
  unfold endLine
  rw [without_carry]
  split
  · exact without_without hidden s
  · exact closeLiteral_without hidden (s.enter .code)
  · cases hidden <;> rfl
  · exact pushComment_without hidden s '\n'

end Without

/-- Reading does not depend on what a channel holds. -/
theorem run_without (hidden : Channel) (s : Scan) (text : List Char) :
    ((s.without hidden).run text).without hidden = (s.run text).without hidden := by
  induction text generalizing s with
  | nil => cases hidden <;> rfl
  | cons c rest ih =>
      -- Erasing once more after the first step makes both sides runs from one erased state.
      calc (((s.without hidden).step c rest).run rest).without hidden
          = ((((s.without hidden).step c rest).without hidden).run rest).without hidden :=
            (ih _).symm
        _ = (((s.step c rest).without hidden).run rest).without hidden := by rw [step_without]
        _ = ((s.step c rest).run rest).without hidden := ih _

/-- States that agree but for a channel go on to agree but for it. -/
theorem run_without_congr {hidden : Channel} {s t : Scan}
    (same : s.without hidden = t.without hidden) (text : List Char) :
    (s.run text).without hidden = (t.run text).without hidden := by
  rw [← run_without, same, run_without]

end Scan

/-! ### Enclosed text -/

/-- The ways to enclose text that is no code. -/
inductive Enclosure where
  /-- A plain string with its quote. -/
  | quoted (quote : Char)
  /-- Template text without interpolations. -/
  | template
  | blockComment
  | lineComment
  deriving Repr, DecidableEq

namespace Enclosure

/-- A text between its delimiters. The line ends a line comment. -/
def wrap : Enclosure → List Char → List Char
  | quoted quote, body => quote :: (body ++ [quote])
  | template, body => '`' :: (body ++ ['`'])
  | blockComment, body => '/' :: '*' :: (body ++ ['*', '/'])
  | lineComment, body => '/' :: '/' :: body

/-- The texts that reach from delimiter to delimiter on one line. -/
def Admits : Enclosure → List Char → Prop
  | quoted quote, body =>
    (quote = '\'' ∨ quote = '"') ∧ quote ∉ body ∧ '\\' ∉ body ∧ '\n' ∉ body
  | template, body => '`' ∉ body ∧ '\\' ∉ body ∧ '$' ∉ body ∧ '\n' ∉ body
  | blockComment, body => ¬ ['*', '/'] <:+: body ∧ '\n' ∉ body
  | lineComment, body => '\n' ∉ body

/-- What may follow an enclosed text: after a line comment only the end of its line. -/
def EndsBefore : Enclosure → List Char → Prop
  | lineComment, after => after = [] ∨ after.head? = some '\n'
  | _, _ => True

/-- The channel that an enclosed text goes to. -/
def channel : Enclosure → Channel
  | quoted _ | template => .literals
  | blockComment | lineComment => .comment

end Enclosure

namespace Scan

/-- The state after more text of a literal. -/
def takeLiteral (s : Scan) (body : List Char) : Scan :=
  { s with carry := { s.carry with literal := body.reverse ++ s.carry.literal } }

/-- The state after more text of a comment. -/
def takeComment (s : Scan) (body : List Char) : Scan :=
  { s with found := { s.found with comment := body.reverse ++ s.found.comment } }

/-- The state after an enclosed text, when the machine comes to it in the given state. -/
def past (s : Scan) (kind : Enclosure) (body : List Char) : Scan :=
  match kind with
  | .quoted quote =>
    ((((s.pushCode quote).takeLiteral body).enter .code).pushCode quote).closeLiteral
  | .template => ((((s.pushCode '`').takeLiteral body).enter .code).pushCode '`').closeLiteral
  | .blockComment => ((s.takeComment body).enter .code).pushCode ' '
  | .lineComment => s.takeComment body

/-- The text goes to its channel and nowhere else. -/
theorem past_without (s : Scan) (kind : Enclosure) (body body' : List Char) :
    (s.past kind body).without kind.channel = (s.past kind body').without kind.channel := by
  cases kind <;> rfl

section Fresh

variable {s : Scan} (c : Char) (rest : List Char)

theorem step_blockComment (mode : s.carry.mode = .blockComment) (fresh : s.skip = 0) :
    s.step c rest = s.commentStep c rest := by
  rw [step, fresh, mode]

theorem step_quoted {quote : Char} (mode : s.carry.mode = .quoted quote) (fresh : s.skip = 0) :
    s.step c rest = s.quotedStep quote c rest := by
  rw [step, fresh, mode]

theorem step_template (mode : s.carry.mode = .template) (fresh : s.skip = 0) :
    s.step c rest = s.templateStep c rest := by
  rw [step, fresh, mode]

end Fresh

/-- Text whose characters all go to the literal being read does so as a whole. -/
theorem run_takeLiteral {s : Scan} {body : List Char}
    (plain : ∀ t : Scan, t.carry.mode = s.carry.mode → t.skip = s.skip →
      ∀ c ∈ body, ∀ more, t.step c more = t.pushLiteral c) (rest : List Char) :
    s.run (body ++ rest) = (s.takeLiteral body).run rest := by
  induction body generalizing s with
  | nil => rfl
  | cons c more ih =>
      -- A literal grows without a change of mode, so `plain` still applies one character on.
      have next := plain s rfl rfl c (List.mem_cons_self ..) (more ++ rest)
      have taken : s.takeLiteral (c :: more) = (s.pushLiteral c).takeLiteral more := by
        simp [takeLiteral, pushLiteral]
      rw [List.cons_append, run, next, taken]
      exact ih fun t mode skip d hd => plain t mode skip d (List.mem_cons_of_mem c hd)

/-- The text of a plain string goes to its literal. -/
theorem run_quoted {s : Scan} {quote : Char} (mode : s.carry.mode = .quoted quote)
    (fresh : s.skip = 0) {body : List Char} (hquote : quote ∉ body) (hesc : '\\' ∉ body)
    (rest : List Char) : s.run (body ++ rest) = (s.takeLiteral body).run rest := by
  refine run_takeLiteral (fun t tmode tfresh c hc more => ?_) rest
  have noEscape : c ≠ '\\' := fun h => hesc (h ▸ hc)
  have noQuote : c ≠ quote := fun h => hquote (h ▸ hc)
  rw [step_quoted c more (tmode.trans mode) (tfresh.trans fresh), quotedStep, if_neg noEscape,
    if_neg noQuote]

/-- Template text without interpolations goes to its literal. -/
theorem run_template {s : Scan} (mode : s.carry.mode = .template) (fresh : s.skip = 0)
    {body : List Char} (htick : '`' ∉ body) (hesc : '\\' ∉ body) (hdollar : '$' ∉ body)
    (rest : List Char) : s.run (body ++ rest) = (s.takeLiteral body).run rest := by
  refine run_takeLiteral (fun t tmode tfresh c hc more => ?_) rest
  have noEscape : c ≠ '\\' := fun h => hesc (h ▸ hc)
  have noTick : c ≠ '`' := fun h => htick (h ▸ hc)
  have noDollar : c ≠ '$' := fun h => hdollar (h ▸ hc)
  rw [step_template c more (tmode.trans mode) (tfresh.trans fresh), templateStep, if_neg noEscape,
    if_neg noTick, if_neg (by simp [noDollar])]

/-- The text of a block comment up to its end goes to the comment. The text may end in a star, so
where it ends is seen from what follows it. -/
theorem run_blockComment {s : Scan} (mode : s.carry.mode = .blockComment) (fresh : s.skip = 0)
    {body : List Char} (hclose : ¬ ['*', '/'] <:+: body) (rest : List Char) :
    s.run (body ++ '*' :: rest) = (s.takeComment body).run ('*' :: rest) := by
  induction body generalizing s with
  | nil => rfl
  | cons c more ih =>
      have open_ : ¬ (c = '*' && (more ++ '*' :: rest).head? == some '/') = true := by
        intro closes
        rw [Bool.and_eq_true, decide_eq_true_eq, beq_iff_eq] at closes
        cases more with
        | nil =>
            -- What follows the last character is the star of the delimiter.
            exact absurd closes.2 (by simp)
        | cons d far =>
            obtain ⟨rfl, hd⟩ := closes
            obtain rfl := Option.some.inj hd
            exact hclose ⟨[], far, rfl⟩
      have next : s.step c (more ++ '*' :: rest) = s.pushComment c := by
        rw [step_blockComment c _ mode fresh, commentStep, if_neg open_]
      have taken : s.takeComment (c :: more) = (s.pushComment c).takeComment more := by
        simp [takeComment, pushComment]
      rw [List.cons_append, run, next, taken]
      exact ih mode fresh fun inner => hclose (inner.trans (List.suffix_cons c more).isInfix)

/-- **Coming out of an enclosed text.** A machine that comes to it in code goes on after it as `past`
says; a line comment goes on to the end of its line. -/
theorem run_wrap {s : Scan} (mode : s.carry.mode = .code) (fresh : s.skip = 0) {kind : Enclosure}
    {body : List Char} (admits : kind.Admits body) {rest : List Char}
    (ends : kind = .lineComment → rest = []) :
    s.run (kind.wrap body ++ rest) = (s.past kind body).run rest := by
  obtain ⟨⟨smode, depth, interpolations, literal⟩, found, skip⟩ := s
  obtain rfl : smode = .code := mode
  obtain rfl : skip = 0 := fresh
  cases kind with
  | quoted quote =>
      obtain ⟨hquote, noQuote, noEscape, -⟩ := admits
      have opened : ∀ more,
          Scan.step ⟨⟨.code, depth, interpolations, literal⟩, found, 0⟩ quote more =
            ⟨⟨.quoted quote, depth, interpolations, literal⟩,
              { found with code := quote :: found.code }, 0⟩ := by
        intro more
        rcases hquote with rfl | rfl <;> rfl
      rw [Enclosure.wrap, List.cons_append, List.append_assoc, run, opened,
        run_quoted rfl rfl noQuote noEscape]
      rcases hquote with rfl | rfl <;> rfl
  | template =>
      obtain ⟨noTick, noEscape, noDollar, -⟩ := admits
      have opened : ∀ more,
          Scan.step ⟨⟨.code, depth, interpolations, literal⟩, found, 0⟩ '`' more =
            ⟨⟨.template, depth, interpolations, literal⟩,
              { found with code := '`' :: found.code }, 0⟩ := fun _ => rfl
      rw [Enclosure.wrap, List.cons_append, List.append_assoc, run, opened,
        run_template rfl rfl noTick noEscape noDollar]
      rfl
  | blockComment =>
      have opened : ∀ more, Scan.run ⟨⟨.code, depth, interpolations, literal⟩, found, 0⟩
          ('/' :: '*' :: more) =
            Scan.run ⟨⟨.blockComment, depth, interpolations, literal⟩, found, 0⟩ more :=
        fun _ => rfl
      rw [Enclosure.wrap, List.cons_append, List.cons_append, List.append_assoc, opened]
      exact run_blockComment rfl rfl admits.1 ('/' :: rest)
  | lineComment =>
      -- The comment is taken in one step, which skips what is left of the line.
      obtain rfl := ends rfl
      have opened : Scan.run ⟨⟨.code, depth, interpolations, literal⟩, found, 0⟩
          ('/' :: '/' :: body) =
            Scan.run ⟨⟨.code, depth, interpolations, literal⟩,
              { found with comment := body.reverse ++ found.comment }, body.length⟩ body := rfl
      rw [List.append_nil, Enclosure.wrap, opened, run_of_skip (Nat.le_refl _)]
      simp only [Nat.sub_self]
      rfl

end Scan

/-! ### Lines with an enclosed text -/

theorem mem_of_mem_dropFinal {c d : Char} {text : List Char} (h : d ∈ dropFinal c text) :
    d ∈ text := by
  unfold dropFinal at h
  split at h
  · exact List.dropLast_subset text h
  · exact h

namespace Enclosure

/-- The first character of the delimiters. -/
def opening : Enclosure → Char
  | quoted quote => quote
  | template => '`'
  | blockComment | lineComment => '/'

/-- An enclosed text begins with its delimiter. -/
theorem exists_wrap_eq_cons (kind : Enclosure) (body : List Char) :
    ∃ more, kind.wrap body = kind.opening :: more := by
  cases kind <;> exact ⟨_, rfl⟩

/-- A delimiter is neither blank nor part of a line ending. -/
theorem opening_visible {kind : Enclosure} {body : List Char} (admits : kind.Admits body) :
    isBlank kind.opening = false ∧ kind.opening ≠ '\n' ∧ kind.opening ≠ '\r' := by
  cases kind with
  | quoted quote => rcases admits.1 with rfl | rfl <;> decide
  | template => decide
  | blockComment => decide
  | lineComment => decide

/-- An enclosed text stands on one line. -/
theorem newline_not_mem_wrap {kind : Enclosure} {body : List Char} (admits : kind.Admits body) :
    '\n' ∉ kind.wrap body := by
  cases kind with
  | quoted quote =>
      obtain ⟨hquote, -, -, noBreak⟩ := admits
      rcases hquote with rfl | rfl <;> simpa [wrap] using noBreak
  | template => simpa [wrap] using admits.2.2.2
  | blockComment => simpa [wrap] using admits.2
  | lineComment => simpa [wrap, Admits] using admits

/-- A text with a closing delimiter stands on its line as it is: the delimiter keeps the end of the text
from being taken for a line ending. -/
theorem lineEnd_wrap {kind : Enclosure} {body : List Char} (admits : kind.Admits body)
    (closed : kind ≠ .lineComment) (after : List Char) :
    lineEnd (kind.wrap body ++ after) = kind.wrap body ++ lineEnd after := by
  obtain ⟨most, last, hwrap, hlast⟩ :
      ∃ most last, kind.wrap body = most ++ [last] ∧ last ≠ '\r' := by
    cases kind with
    | quoted quote =>
        refine ⟨quote :: body, quote, rfl, ?_⟩
        rcases admits.1 with rfl | rfl <;> decide
    | template => exact ⟨'`' :: body, '`', rfl, by decide⟩
    | blockComment =>
        exact ⟨'/' :: '*' :: (body ++ ['*']), '/', by simp [wrap], by decide⟩
    | lineComment => exact absurd rfl closed
  rw [lineEnd_append (newline_not_mem_wrap admits), hwrap, List.append_assoc, List.singleton_append,
    dropFinal_append '\r' most (List.cons_ne_nil _ _), dropFinal_cons_of_ne hlast,
    List.append_assoc, List.singleton_append, lineEnd]

/-- A carriage return before the end of the line belongs to the line ending. When it stands at the
end of a line comment, the comment is shorter by it; otherwise the enclosed text is as before. -/
theorem exists_lineEnd_wrap {kind : Enclosure} {body after : List Char} (admits : kind.Admits body)
    (ends : kind.EndsBefore after) :
    ∃ kept, kind.Admits kept ∧
      lineEnd (kind.wrap body ++ after) = kind.wrap kept ++ lineEnd after ∧
        (kind = .lineComment → lineEnd after = []) := by
  by_cases hkind : kind = .lineComment
  · subst hkind
    have oneLine := newline_not_mem_wrap admits
    have closed : (splitAtNewlines (dropFinal '\n' after)).headD [] = [] := by
      rcases ends with rfl | hbreak
      · rfl
      · obtain ⟨more, rfl⟩ := List.head?_eq_some_iff.mp hbreak
        cases more with
        | nil => rfl
        | cons d more => rw [dropFinal_cons_cons]; rfl
    have nothing : lineEnd after = [] := by rw [lineEnd, closed]; rfl
    refine ⟨dropFinal '\r' body, ?_, ?_, fun _ => nothing⟩
    · exact fun member => admits (mem_of_mem_dropFinal member)
    · rw [lineEnd_append oneLine, closed, nothing, List.append_nil, List.append_nil]
      have slash : '/' ≠ '\r' := by decide
      rw [wrap, dropFinal_cons_of_ne slash, dropFinal_cons_of_ne slash]
      rfl
  · exact ⟨body, admits, lineEnd_wrap admits hkind after, fun h => absurd h hkind⟩

end Enclosure

/-- Lines whose readings agree but for a channel are masked alike but for it, and leave the same to
the next line. -/
theorem maskLine_sameBut {hidden : Channel} {carry : Carry} {raw raw' : List Char}
    (same : (Scan.run { carry } raw).without hidden = (Scan.run { carry } raw').without hidden)
    (blank : allBlank raw = allBlank raw') (number : Nat) :
    (maskLine carry number raw).1.SameBut hidden (maskLine carry number raw').1 ∧
      (maskLine carry number raw).2 = (maskLine carry number raw').2 := by
  have ended : (Scan.run { carry } raw).endLine.without hidden =
      (Scan.run { carry } raw').endLine.without hidden := by
    rw [← Scan.endLine_without, same, Scan.endLine_without]
  have found := congrArg Scan.found ended
  have left := congrArg Scan.carry ended
  have code : (Scan.run { carry } raw).endLine.found.code =
      (Scan.run { carry } raw').endLine.found.code := by
    rw [← Scan.without_code hidden, ended, Scan.without_code]
  refine ⟨⟨rfl, congrArg List.reverse code, rfl, blank, ?_, ?_⟩, left⟩
  · intro visible
    cases hidden with
    | comment => exact absurd rfl visible
    | literals => exact congrArg (fun f => f.comment.reverse) found
  · intro visible
    cases hidden with
    | comment => exact congrArg (fun f => f.literals.reverse) found
    | literals => exact absurd rfl visible

/-- **Two sources that differ in an enclosed text are masked alike** but for one line, and there but
for the channel of the text, when the machine comes to it in code. -/
theorem maskSource_wrap {kind : Enclosure} {before after body body' : List Char}
    (mode : (scanAt before (kind.wrap body ++ after)).carry.mode = .code)
    (fresh : (scanAt before (kind.wrap body ++ after)).skip = 0)
    (admits : kind.Admits body) (admits' : kind.Admits body') (ends : kind.EndsBefore after) :
    ∃ first line line' last,
      maskSource (before ++ kind.wrap body ++ after) = first ++ line :: last ∧
        maskSource (before ++ kind.wrap body' ++ after) = first ++ line' :: last ∧
          line.SameBut kind.channel line' := by
  obtain ⟨more, hmore⟩ := kind.exists_wrap_eq_cons body
  obtain ⟨more', hmore'⟩ := kind.exists_wrap_eq_cons body'
  obtain ⟨visible, hn, hr⟩ := Enclosure.opening_visible admits
  obtain ⟨kept, hkept, hline, hends⟩ := Enclosure.exists_lineEnd_wrap admits ends
  obtain ⟨kept', hkept', hline', -⟩ := Enclosure.exists_lineEnd_wrap admits' ends
  let carry := carryAfter {} (linesBefore before)
  let raw := fun text => lineStart before ++ lineEnd (kind.wrap text ++ after)
  -- The machine comes to both texts in the same state.
  have arrives :
      scanAt before (kind.wrap body' ++ after) = scanAt before (kind.wrap body ++ after) := by
    rw [hmore] at fresh ⊢
    rw [hmore']
    exact scanAt_eq_of_head hn hr fresh _
  have reading : (Scan.run { carry } (raw body)).without kind.channel =
      (Scan.run { carry } (raw body')).without kind.channel := by
    simp only [carry, raw]
    rw [run_lineStart_append, run_lineStart_append, arrives, hline, hline',
      Scan.run_wrap mode fresh hkept hends, Scan.run_wrap mode fresh hkept' hends]
    exact Scan.run_without_congr (Scan.past_without _ kind kept kept') _
  have shown : ∀ text, allBlank (raw text) = false := by
    intro text
    obtain ⟨far, hfar⟩ := kind.exists_wrap_eq_cons text
    obtain ⟨keptFar, hkeptFar⟩ := exists_lineEnd_cons hn hr (far ++ after)
    simp only [raw]
    rw [hfar, List.cons_append, hkeptFar, allBlank, List.all_append, List.all_cons, visible,
      Bool.false_and, Bool.and_false]
  let number := 1 + (linesBefore before).length
  have masked : ∀ text, kind.Admits text → maskSource (before ++ kind.wrap text ++ after) =
      maskLines {} 1 (linesBefore before) ++ (maskLine carry number (raw text)).1 ::
        maskLines (maskLine carry number (raw text)).2 (number + 1) (linesAfter after) := by
    intro text htext
    have oneLine := Enclosure.newline_not_mem_wrap htext
    obtain ⟨far, hfar⟩ := kind.exists_wrap_eq_cons text
    simp only [carry, raw, number]
    rw [← maskLines_cons, ← linesAfter_append oneLine after, List.append_assoc, hfar,
      List.cons_append, maskSource_append before hn]
  obtain ⟨alike, next⟩ :=
    maskLine_sameBut reading ((shown body).trans (shown body').symm) number
  refine ⟨_, _, _, _, masked body admits, ?_, alike⟩
  rw [masked body' admits', next]

end FlowAudit.Source
