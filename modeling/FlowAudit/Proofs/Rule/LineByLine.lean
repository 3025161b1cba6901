import FlowAudit.Proofs.Source.Juncture
import FlowAudit.Rule.Detect

/-!
# FlowAudit.Proofs.Rule.LineByLine

**Rules that look at one line at a time.** Five rules of the catalog neither count over lines nor keep
anything in mind from line to line (`lineKinds`). What such a rule finds in lines put after others is
what it finds in the ones and then in the others (`rule_append`), and lines that stand further on have
the same issues further on (`rule_later`). Where masking is cut in two, so are their reports
(`lineKinds_join`).
-/

namespace FlowAudit

open FlowAudit.Source

/-- The kinds whose rules look at one line at a time. -/
def lineKinds : List Kind :=
  [.consoleLog, .nodeWarn, .debuggerStatement, .todoComment, .hardcodedTest]

/-- An issue some lines further on. -/
def Issue.later (count : Nat) (issue : Issue) : Issue :=
  { issue with line := issue.line.map (· + count) }

@[simp]
theorem Issue.later_located (count : Nat) (kind : Kind) (line : Nat) (detail : String) :
    (Issue.located kind line detail).later count = .located kind (line + count) detail := rfl

/-- The lines of the whole are looked at one after the other. -/
theorem rule_append {kind : Kind} (byLine : kind ∈ lineKinds) (first second : List Line) :
    kind.rule (first ++ second) = kind.rule first ++ kind.rule second := by
  cases kind with
  | topLevelReturn => exact absurd byLine (by decide)
  | consoleLog => exact List.flatMap_append
  | nodeWarn => exact List.flatMap_append
  | debuggerStatement =>
      show Rule.debuggerStatement (first ++ second) = _
      rw [Rule.debuggerStatement, List.filter_append, List.map_append]
      rfl
  | todoComment =>
      show Rule.todoComment (first ++ second) = _
      rw [Rule.todoComment, List.filter_append, List.map_append]
      rfl
  | unusedVariable => exact absurd byLine (by decide)
  | hardcodedTest => exact List.filterMap_append
  | multipleEmptyLines => exact absurd byLine (by decide)

/-- The number of a line is where its issues are, and nothing else. -/
theorem rule_later {kind : Kind} (byLine : kind ∈ lineKinds) (count : Nat) (lines : List Line) :
    kind.rule (lines.map (Line.later count)) = (kind.rule lines).map (Issue.later count) := by
  cases kind with
  | topLevelReturn => exact absurd byLine (by decide)
  | consoleLog =>
      simp only [Kind.rule, Rule.consoleLog, List.flatMap_map, List.map_flatMap, List.map_map,
        Function.comp_def, Line.later_code, Line.later_number, Issue.later_located]
  | nodeWarn =>
      simp only [Kind.rule, Rule.nodeWarn, List.flatMap_map, List.map_flatMap, List.map_map,
        Function.comp_def, Line.later_code, Line.later_number, Issue.later_located]
  | debuggerStatement =>
      simp only [Kind.rule, Rule.debuggerStatement, List.filter_map, List.map_map,
        Function.comp_def, Line.later_code, Line.later_number, Issue.later_located]
  | todoComment =>
      simp only [Kind.rule, Rule.todoComment, List.filter_map, List.map_map, Function.comp_def,
        Line.later_comment, Line.later_number, Issue.later_located]
  | unusedVariable => exact absurd byLine (by decide)
  | hardcodedTest =>
      simp only [Kind.rule, Rule.hardcodedTest, Rule.placeholderOf?, List.filterMap_map,
        List.map_filterMap, Function.comp_def, Option.map_map, Line.later_literals,
        Line.later_code, Line.later_number, Issue.later_located]
  | multipleEmptyLines => exact absurd byLine (by decide)

/-- **Masking is cut in two at the end of a line** that the machine leaves in code, outside all
interpolations and braces. Nothing of what is before it shows in what is after it, no text of a literal
either; and rules that look at one line at a time report on the whole what they report on the two
parts. -/
theorem lineKinds_join (first second : List Char)
    (mode : (carryAfter {} (rawLines (first ++ ['\n']))).mode = .code)
    (interpolations : (carryAfter {} (rawLines (first ++ ['\n']))).interpolations = [])
    (depth : (carryAfter {} (rawLines (first ++ ['\n']))).depth = 0) :
    let before := maskSource (first ++ ['\n'])
    (carryAfter {} (rawLines (first ++ ['\n']))).literal = [] ∧
      maskSource (first ++ '\n' :: second) =
        before ++ (maskSource second).map (Line.later before.length) ∧
      ∀ kind ∈ lineKinds, kind.rule (maskSource (first ++ '\n' :: second)) =
        kind.rule before ++ (kind.rule (maskSource second)).map (Issue.later before.length) := by
  intro before
  obtain ⟨nothing, joined⟩ := maskSource_join mode interpolations depth second
  refine ⟨by rw [nothing], joined, fun kind byLine => ?_⟩
  rw [joined, rule_append byLine, rule_later byLine]

/-- The first source holds a string over two lines, an escaped backtick in a template and an
interpolation with a string in it; the second one begins with an end of a line and goes on with a
placeholder in a template that is left open. -/
theorem lineKinds_join_templates :
    (carryAfter {} (rawLines "let a = \"b\\\nlet s = `c\\`$\x7bf('d')\x7d e`; /* TODO */\n".toList)).mode
        = .code ∧
      ∀ kind ∈ lineKinds,
        kind.rule (maskSource
            ("let a = \"b\\\nlet s = `c\\`$\x7bf('d')\x7d e`; /* TODO */".toList ++
              '\n' :: "\nconsole.log('foo', `$\x7bdebugger\x7d bar\n".toList)) =
          kind.rule (maskSource
              ("let a = \"b\\\nlet s = `c\\`$\x7bf('d')\x7d e`; /* TODO */".toList ++ ['\n'])) ++
            (kind.rule (maskSource "\nconsole.log('foo', `$\x7bdebugger\x7d bar\n".toList)).map
              (Issue.later 2) :=
  ⟨by decide +kernel,
    (lineKinds_join _ _ (by decide +kernel) (by decide +kernel) (by decide +kernel)).2.2⟩

end FlowAudit
