import FlowAudit.Proofs.Rule.Catalog
import FlowAudit.Proofs.Source.Enclosure

/-!
# FlowAudit.Proofs.Rule.Contents

**What strings, templates and comments say is nothing to the rules for code.** Masking already keeps
the contents of enclosed text out of everything but one channel (`maskSource_wrap`). Each channel has
one rule that reads it, the rule for placeholders the literals and the rule for markers the comments
(`Channel.reader`), and every other rule finds the same in lines that differ in that channel only
(`rule_congr`). So changing an enclosed text changes the issues of one kind at most.
-/

namespace FlowAudit

open FlowAudit.Text FlowAudit.Source

/-- The kind of issue whose rule reads a channel. -/
def Source.Channel.reader : Channel → Kind
  | .comment => .todoComment
  | .literals => .hardcodedTest

/-! ### Functions of related lists -/

section Related

variable {α β : Type} {R : α → α → Prop} {l l' : List α}

theorem map_eq_of_forall₂ {f : α → β} (same : ∀ a b, R a b → f a = f b)
    (related : List.Forall₂ R l l') : l.map f = l'.map f := by
  induction related with
  | nil => rfl
  | cons head _ ih => rw [List.map_cons, List.map_cons, same _ _ head, ih]

theorem flatMap_eq_of_forall₂ {f : α → List β} (same : ∀ a b, R a b → f a = f b)
    (related : List.Forall₂ R l l') : l.flatMap f = l'.flatMap f := by
  rw [List.flatMap_def, List.flatMap_def, map_eq_of_forall₂ same related]

theorem filterMap_eq_of_forall₂ {f : α → Option β} (same : ∀ a b, R a b → f a = f b)
    (related : List.Forall₂ R l l') : l.filterMap f = l'.filterMap f := by
  induction related with
  | nil => rfl
  | cons head _ ih => rw [List.filterMap_cons, List.filterMap_cons, same _ _ head, ih]

theorem filter_map_eq_of_forall₂ {test : α → Bool} {f : α → β}
    (sameTest : ∀ a b, R a b → test a = test b) (same : ∀ a b, R a b → f a = f b)
    (related : List.Forall₂ R l l') : (l.filter test).map f = (l'.filter test).map f := by
  induction related with
  | nil => rfl
  | cons head _ ih =>
      rw [List.filter_cons, List.filter_cons, sameTest _ _ head]
      split
      · rw [List.map_cons, List.map_cons, same _ _ head, ih]
      · exact ih

end Related

/-! ### Rules and channels -/

namespace Rule

variable {hidden : Channel} {lines lines' : List Line}

/-- Following control headers from line to line takes their code and nothing else. -/
theorem topLevelReturns_congr (related : List.Forall₂ (Line.SameBut hidden) lines lines')
    (state : HeaderState) :
    (topLevelReturns state lines).map Line.number =
      (topLevelReturns state lines').map Line.number := by
  induction related generalizing state with
  | nil => rfl
  | @cons line line' rest rest' head _ ih =>
      have reports : reportsReturn state line = reportsReturn state line' := by
        funext offset
        simp only [reportsReturn, head.code, head.depth]
      simp only [topLevelReturns]
      rw [head.code, reports]
      split
      · exact ih state
      · split
        · rw [List.map_cons, List.map_cons, head.number, ih]
        · exact ih _

/-- Runs of blank lines depend on which lines are blank and on their numbers. -/
theorem blankRuns_congr (related : List.Forall₂ (Line.SameBut hidden) lines lines')
    (open_ : Option BlankRun) : blankRuns open_ lines = blankRuns open_ lines' := by
  induction related generalizing open_ with
  | nil => rfl
  | @cons line line' rest rest' head _ ih =>
      have extended : BlankRun.extend open_ line = BlankRun.extend open_ line' := by
        cases open_ with
        | none => simp only [BlankRun.extend, head.number]
        | some run => rfl
      rw [blankRuns, blankRuns, head.blank, extended, ih, ih]

end Rule

/-- **A rule that does not read a channel finds the same whatever the channel holds.** -/
theorem rule_congr {hidden : Channel} {lines lines' : List Line}
    (related : List.Forall₂ (Line.SameBut hidden) lines lines') {kind : Kind}
    (other : kind ≠ hidden.reader) : kind.rule lines = kind.rule lines' := by
  cases kind with
  | topLevelReturn =>
      -- The rule finds lines, which may differ; of these it reports the numbers.
      have numbers := Rule.topLevelReturns_congr related {}
      have located := congrArg (List.map fun number => Issue.located .topLevelReturn number
        "remove this return, the code after it never runs") numbers
      rw [List.map_map, List.map_map] at located
      exact located
  | consoleLog =>
      exact flatMap_eq_of_forall₂ (fun a b h => by rw [h.code, h.number]) related
  | nodeWarn =>
      exact flatMap_eq_of_forall₂ (fun a b h => by rw [h.code, h.number]) related
  | debuggerStatement =>
      exact filter_map_eq_of_forall₂ (fun a b h => by rw [h.code]) (fun a b h => by rw [h.number])
        related
  | todoComment =>
      have visible : hidden ≠ .comment := fun h => other (by rw [h]; rfl)
      exact filter_map_eq_of_forall₂ (fun a b h => by rw [h.comment visible])
        (fun a b h => by rw [h.comment visible, h.number]) related
  | unusedVariable =>
      -- Uses are counted over all lines, so they have to agree before any line is looked at.
      have uses : (lines.flatMap fun line => Rule.identifiers line.code) =
          lines'.flatMap fun line => Rule.identifiers line.code :=
        flatMap_eq_of_forall₂ (fun a b h => by rw [h.code]) related
      show Rule.unusedVariable lines = Rule.unusedVariable lines'
      unfold Rule.unusedVariable
      rw [uses]
      exact flatMap_eq_of_forall₂ (fun a b h => by rw [h.code, h.number]) related
  | hardcodedTest =>
      have visible : hidden ≠ .literals := fun h => other (by rw [h]; rfl)
      refine filterMap_eq_of_forall₂ (fun a b h => ?_) related
      rw [Rule.placeholderOf?, Rule.placeholderOf?, h.literals visible, h.code, h.number]
  | multipleEmptyLines =>
      show Rule.multipleEmptyLines lines = Rule.multipleEmptyLines lines'
      rw [Rule.multipleEmptyLines, Rule.multipleEmptyLines, Rule.blankRuns_congr related]

/-- Reports without the kind that reads a channel are the same whatever the channel holds. -/
theorem reportOf_congr {hidden : Channel} {lines lines' : List Line}
    (related : List.Forall₂ (Line.SameBut hidden) lines lines') {wanted : Kind → Bool}
    (other : wanted hidden.reader = false) : reportOf wanted lines = reportOf wanted lines' := by
  unfold reportOf
  have rules : ∀ kind ∈ Kind.all.filter wanted, kind.rule lines = kind.rule lines' := by
    intro kind member
    refine rule_congr related fun h => ?_
    rw [List.mem_filter, h, other] at member
    exact absurd member.2 Bool.false_ne_true
  rw [List.flatMap_congr rules]

/-! ### Enclosed text -/

/-- **Changing an enclosed text changes no code.** When the machine comes to a plain string, a
template text or a comment in code, with nothing of it taken in yet, the masked lines are the same
whatever the text, save for the channel that it goes to and the one line as it stands; and at every
level the same issues are reported, save for those of the one kind that reads the channel. -/
theorem enclosed_text_invisible (kind : Enclosure) (before after body body' : List Char)
    (mode : (scanAt before (kind.wrap body ++ after)).carry.mode = .code)
    (fresh : (scanAt before (kind.wrap body ++ after)).skip = 0)
    (admits : kind.Admits body) (admits' : kind.Admits body') (ends : kind.EndsBefore after) :
    let source := before ++ kind.wrap body ++ after
    let source' := before ++ kind.wrap body' ++ after
    (maskSource source).length = (maskSource source').length ∧
      List.Forall₂ (Line.SameBut kind.channel) (maskSource source) (maskSource source') ∧
        ∀ level, (detect level source).filter (fun issue => issue.kind ≠ kind.channel.reader) =
          (detect level source').filter (fun issue => issue.kind ≠ kind.channel.reader) := by
  intro source source'
  obtain ⟨first, line, line', last, hsource, hsource', alike⟩ :=
    maskSource_wrap mode fresh admits admits' ends
  have related :
      List.Forall₂ (Line.SameBut kind.channel) (maskSource source) (maskSource source') := by
    rw [hsource, hsource']
    have same : ∀ lines : List Line, List.Forall₂ (Line.SameBut kind.channel) lines lines :=
      fun lines => List.forall₂_same.mpr fun a _ => Line.SameBut.refl kind.channel a
    exact List.rel_append (same first) (List.Forall₂.cons alike (same last))
  refine ⟨related.length_eq, related, fun level => ?_⟩
  have shown : ∀ text, allBlank (before ++ kind.wrap text ++ after) = false := by
    intro text
    obtain ⟨more, hmore⟩ := kind.exists_wrap_eq_cons text
    rw [hmore, allBlank, List.all_append, List.all_append, List.all_cons,
      (Enclosure.opening_visible admits).1, Bool.false_and, Bool.and_false, Bool.false_and]
  have filtered : ∀ text : List Char, allBlank text = false →
      (detect level text).filter (fun issue => issue.kind ≠ kind.channel.reader) =
        reportOf (fun k => k.enabledAt level && decide (k ≠ kind.channel.reader))
          (maskSource text) := by
    intro text visible
    rw [filter_detect level (fun k => decide (k ≠ kind.channel.reader)), visible,
      if_neg Bool.false_ne_true]
  rw [filtered source (shown body), filtered source' (shown body'),
    reportOf_congr related (by simp)]

/-- A block comment inside an interpolation. The template began on the same line, and the line before
holds a regular expression with a quote and a slash in a class; neither keeps the machine from coming
to the comment in code. -/
theorem enclosed_text_invisible_interpolated :
    (scanAt "const re = /[/\"]/;\nlet s = `a$\x7b f(".toList
        (Enclosure.wrap .blockComment "TODO*".toList ++ ") \x7d`;\nreturn;".toList)).skip = 0 ∧
      (detect .strict ("const re = /[/\"]/;\nlet s = `a$\x7b f(".toList ++
          Enclosure.wrap .blockComment "TODO*".toList ++ ") \x7d`;\nreturn;".toList)).filter
          (fun issue => issue.kind ≠ (Enclosure.channel .blockComment).reader) =
        (detect .strict ("const re = /[/\"]/;\nlet s = `a$\x7b f(".toList ++
          Enclosure.wrap .blockComment "debugger".toList ++ ") \x7d`;\nreturn;".toList)).filter
          (fun issue => issue.kind ≠ (Enclosure.channel .blockComment).reader) :=
  ⟨by decide +kernel,
    (enclosed_text_invisible .blockComment _ _ _ _ (by decide +kernel) (by decide +kernel)
      ⟨by decide +kernel, by decide +kernel⟩ ⟨by decide +kernel, by decide +kernel⟩ trivial).2.2
      .strict⟩

end FlowAudit
