import FlowAudit.Proofs.Rule.Catalog
import FlowAudit.Proofs.Rule.TopLevelReturn
import FlowAudit.Proofs.Source.LineEnding

/-!
# FlowAudit.Proofs.Rule.Report

**What a report lists, and in which order.** Issues are ordered by line and within a line by catalog
order, none is lost, and none is added (`detect_reports`).

Sorting could undo the order in which a rule reports: it keeps it because every rule goes along the lines
(`rule_along`), so that its issues come in the order of the lines anyway. A run of blank lines is reported
when it ends, but at its first line; between the two no other issue of that rule comes up
(`exists_blankRuns`). That sorting keeps the catalog order within a line is stability
(`pairwise_mergeSort_key`).
-/

namespace FlowAudit

open FlowAudit.Text FlowAudit.Source

/-! ### Going along the lines -/

/-- Issues that come up along the lines: each line has its issues, and after them come those of the lines
after it. -/
inductive Along : List Line → List Issue → Prop
  | nil : Along [] []
  | cons {line : Line} {rest : List Line} {here later : List Issue}
      (located : ∀ issue ∈ here, issue.line = some line.number) (more : Along rest later) :
      Along (line :: rest) (here ++ later)

namespace Along

variable {lines : List Line} {issues : List Issue}

/-- A line without issues. -/
theorem pass (line : Line) (more : Along lines issues) : Along (line :: lines) issues := by
  have none : ∀ issue ∈ ([] : List Issue), issue.line = some line.number := nofun
  exact .cons none more

/-- A line with one issue. -/
theorem one {line : Line} {issue : Issue} (located : issue.line = some line.number)
    (more : Along lines issues) : Along (line :: lines) (issue :: issues) := by
  have only : ∀ other ∈ [issue], other.line = some line.number := by simpa using located
  exact .cons only more

theorem flatMap {find : Line → List Issue}
    (located : ∀ line, ∀ issue ∈ find line, issue.line = some line.number) (lines : List Line) :
    Along lines (lines.flatMap find) := by
  induction lines with
  | nil => exact .nil
  | cons line rest ih => exact .cons (located line) ih

theorem filterMap {find : Line → Option Issue}
    (located : ∀ line, ∀ issue ∈ find line, issue.line = some line.number) (lines : List Line) :
    Along lines (lines.filterMap find) := by
  induction lines with
  | nil => exact .nil
  | cons line rest ih =>
      rw [List.filterMap_cons]
      split
      · exact ih.pass line
      · exact ih.one (located line _ ‹_›)

/-- One issue for each of some of the lines. -/
theorem map {report : Line → Issue} (located : ∀ line, (report line).line = some line.number)
    {found lines : List Line} (among : found.Sublist lines) : Along lines (found.map report) := by
  induction among with
  | slnil => exact .nil
  | cons line _ ih => exact ih.pass line
  | cons_cons line _ ih => exact ih.one (located line)

/-- Every issue is at one of the lines. -/
theorem exists_line (along : Along lines issues) {issue : Issue} (member : issue ∈ issues) :
    ∃ line ∈ lines, issue.line = some line.number := by
  induction along with
  | nil => exact absurd member List.not_mem_nil
  | @cons line rest here later located _ ih =>
      rcases List.mem_append.mp member with first | second
      · exact ⟨line, List.mem_cons_self .., located issue first⟩
      · obtain ⟨other, within, at_⟩ := ih second
        exact ⟨other, List.mem_cons_of_mem line within, at_⟩

/-- Along lines in order the issues are in order. -/
theorem ordered (along : Along lines issues)
    (inOrder : lines.Pairwise fun a b => a.number ≤ b.number) :
    issues.Pairwise fun a b => a.position ≤ b.position := by
  induction along with
  | nil => exact .nil
  | @cons line rest here later located more ih =>
      obtain ⟨first, others⟩ := List.pairwise_cons.mp inOrder
      have position : ∀ issue ∈ here, issue.position = line.number := by
        intro issue member
        rw [Issue.position, located issue member]
        rfl
      refine List.pairwise_append.mpr ⟨?_, ih others, ?_⟩
      · refine List.pairwise_of_forall_mem_list fun a ha b hb => ?_
        exact Nat.le_of_eq ((position a ha).trans (position b hb).symm)
      · intro a ha b hb
        obtain ⟨other, within, at_⟩ := more.exists_line hb
        have below := first other within
        rw [position a ha, Issue.position, at_]
        exact below

end Along

/-! ### Every rule does -/

namespace Rule

/-- The issue of a run of blank lines, if it is long enough. -/
def runIssues (runs : List BlankRun) : List Issue :=
  (runs.filter fun run => shortestRun ≤ run.length).map fun run =>
    .located .multipleEmptyLines run.start (toString run.length ++ " consecutive empty lines")

theorem runIssues_cons (run : BlankRun) (runs : List BlankRun) :
    runIssues (run :: runs) = runIssues [run] ++ runIssues runs := by
  rw [runIssues, ← List.singleton_append, List.filter_append, List.map_append]
  rfl

theorem line_of_mem_runIssues {run : BlankRun} {issue : Issue} (member : issue ∈ runIssues [run]) :
    issue.line = some run.start := by
  obtain ⟨other, found, rfl⟩ := List.mem_map.mp member
  obtain rfl := List.mem_singleton.mp (List.mem_filter.mp found).1
  rfl

/-- A run that has begun ends somewhere, and its first line stays the same. The runs after it are those
of the lines after it. -/
theorem exists_blankRuns (lines : List Line) :
    Along lines (runIssues (blankRuns none lines)) ∧
      ∀ run : BlankRun, ∃ length later, blankRuns (some run) lines = ⟨run.start, length⟩ :: later ∧
        Along lines (runIssues later) := by
  induction lines with
  | nil => exact ⟨.nil, fun run => ⟨run.length, [], rfl, .nil⟩⟩
  | cons line rest ih =>
      obtain ⟨closed, open_⟩ := ih
      by_cases blank : line.isBlank = true
      · refine ⟨?_, fun run => ?_⟩
        · obtain ⟨length, later, runs, along⟩ := open_ { start := line.number, length := 1 }
          rw [blankRuns, if_pos blank, BlankRun.extend, runs, runIssues_cons]
          exact .cons (fun issue member => line_of_mem_runIssues member) along
        · obtain ⟨length, later, runs, along⟩ := open_ { run with length := run.length + 1 }
          refine ⟨length, later, ?_, along.pass line⟩
          rw [blankRuns, if_pos blank, BlankRun.extend, runs]
      · refine ⟨?_, fun run => ⟨run.length, blankRuns none rest, ?_, closed.pass line⟩⟩
        · rw [blankRuns, if_neg blank]
          exact closed.pass line
        · rw [blankRuns, if_neg blank]
          rfl

end Rule

/-- **Every rule goes along the lines.** -/
theorem rule_along (kind : Kind) (lines : List Line) : Along lines (kind.rule lines) := by
  cases kind with
  | topLevelReturn => exact .map (fun _ => rfl) (Rule.topLevelReturns_sublist {} lines)
  | consoleLog =>
      refine .flatMap (fun line issue member => ?_) lines
      obtain ⟨method, -, rfl⟩ := List.mem_map.mp member
      rfl
  | nodeWarn =>
      refine .flatMap (fun line issue member => ?_) lines
      obtain ⟨method, -, rfl⟩ := List.mem_map.mp member
      rfl
  | debuggerStatement => exact .map (fun _ => rfl) List.filter_sublist
  | todoComment => exact .map (fun _ => rfl) List.filter_sublist
  | unusedVariable =>
      refine .flatMap (fun line issue member => ?_) lines
      obtain ⟨name, -, reported⟩ := List.mem_filterMap.mp member
      grind [Issue.located]
  | hardcodedTest =>
      refine .filterMap (fun line issue member => ?_) lines
      obtain ⟨value, -, rfl⟩ := Option.map_eq_some_iff.mp member
      rfl
  | multipleEmptyLines => exact (Rule.exists_blankRuns lines).1

/-! ### Reports -/

/-- The catalog lists the kinds by rank. -/
theorem rank_ordered : Kind.all.Pairwise fun a b => a.rank ≤ b.rank := by decide

/-- The rules run in catalog order. -/
theorem issuesByKind_ordered (level : Level) (lines : List Line) :
    (issuesByKind level lines).Pairwise fun a b => a.kind.rank ≤ b.kind.rank := by
  refine List.pairwise_flatMap.mpr ⟨fun kind _ => ?_, ?_⟩
  · refine List.pairwise_of_forall_mem_list fun a ha b hb => ?_
    exact Nat.le_of_eq (by rw [rule_kind ha, rule_kind hb])
  · refine (rank_ordered.filter _).imp fun {low high} below a ha b hb => ?_
    rwa [rule_kind ha, rule_kind hb]

/-- An issue stands in a report before another one: it is on an earlier line, or on the same line and not
later in the catalog. -/
def Issue.Precedes (a b : Issue) : Prop :=
  ∃ n m, a.line = some n ∧ b.line = some m ∧ (n < m ∨ n = m ∧ a.kind.rank ≤ b.kind.rank)

/-- Issues are the report of a level on some lines: they are on these lines, in order, and each kind has
those that its rule finds, in the order of the rule, if the level enables it. -/
structure Reports (level : Level) (lines : List Line) (issues : List Issue) : Prop where
  within : ∀ issue ∈ issues, ∃ n, issue.line = some n ∧ 1 ≤ n ∧ n ≤ lines.length
  ordered : issues.Pairwise Issue.Precedes
  complete : ∀ kind, issues.filter (fun issue => issue.kind = kind) =
    if kind.enabledAt level then kind.rule lines else []

/-- The lines of a source are numbered from one on, in order. -/
theorem maskSource_inOrder (source : List Char) :
    (maskSource source).Pairwise fun a b => a.number ≤ b.number := by
  have numbers := maskLines_numbers {} 1 (rawLines source)
  have rising : ((maskSource source).map Line.number).Pairwise (· ≤ ·) := by
    rw [maskSource, numbers]
    exact List.pairwise_le_range'
  exact List.pairwise_map.mp rising

theorem number_of_mem_maskSource {source : List Char} {line : Line} (member : line ∈ maskSource source) :
    1 ≤ line.number ∧ line.number ≤ (maskSource source).length := by
  have numbered : line.number ∈ List.range' 1 (rawLines source).length := by
    rw [← maskLines_numbers {} 1 (rawLines source)]
    exact List.mem_map_of_mem member
  rw [maskSource, length_maskLines]
  simp only [List.mem_range'_1] at numbered
  omega

/-- Of a source that is not blank, the issues of one kind among all that are detected. -/
theorem filter_detect_kind (level : Level) {source : List Char} (visible : allBlank source = false)
    (kind : Kind) :
    (detect level source).filter (fun issue => issue.kind = kind) =
      if kind.enabledAt level then kind.rule (maskSource source) else [] := by
  have wanted : Kind.all.filter (fun k => k.enabledAt level && decide (k = kind)) =
      if kind.enabledAt level then [kind] else [] := by
    cases kind <;> cases level <;> rfl
  have ordered := (rule_along kind (maskSource source)).ordered (maskSource_inOrder source)
  rw [filter_detect level (fun k => decide (k = kind)), visible, if_neg Bool.false_ne_true, reportOf,
    wanted]
  split
  · -- The rule reports in the order of the lines, so there is nothing left to sort.
    rw [List.flatMap_singleton]
    exact List.mergeSort_of_pairwise (ordered.imp decide_eq_true)
  · exact List.mergeSort_nil

/-- **What is detected in a source**, blank ones aside: an ordered report on its masked lines, in which
every rule of the level has all its issues and no others. The masked lines are those that an editor
counts, less the empty one after a line feed at the very end. -/
theorem detect_reports (level : Level) {source : List Char} (visible : allBlank source = false) :
    (maskSource source).length =
        lineCount source - (if source.getLast? = some '\n' then 1 else 0) ∧
      Reports level (maskSource source) (detect level source) := by
  have filled : source ≠ [] := by
    rintro rfl
    exact absurd visible (by decide)
  have issues : detect level source =
      (issuesByKind level (maskSource source)).mergeSort fun a b => a.position ≤ b.position := by
    rw [detect, visible, if_neg Bool.false_ne_true]
  have located : ∀ issue ∈ detect level source,
      ∃ line ∈ maskSource source, issue.line = some line.number := by
    intro issue member
    rw [issues, List.mem_mergeSort] at member
    obtain ⟨kind, -, found⟩ := List.mem_flatMap.mp member
    exact (rule_along kind _).exists_line found
  refine ⟨length_maskSource filled, ?_, ?_, filter_detect_kind level visible⟩
  · intro issue member
    obtain ⟨line, within, at_⟩ := located issue member
    exact ⟨line.number, at_, number_of_mem_maskSource within⟩
  · have sorted := pairwise_mergeSort_key Issue.position (issuesByKind_ordered level (maskSource source))
    rw [← issues] at sorted
    refine sorted.imp_of_mem fun {a b} ha hb below => ?_
    obtain ⟨line, -, at_⟩ := located a ha
    obtain ⟨line', -, at'⟩ := located b hb
    refine ⟨line.number, line'.number, at_, at', ?_⟩
    simpa [Issue.position, at_, at'] using below

/-- Five kinds of issue on one line, which stand on it in another order than in the catalog, between two
runs of blank lines. The source ends with a line feed. -/
def crowdedSource : List Char :=
  "\n\ndebugger; node.warn(1); console.log('foo'); // TODO\nreturn;\n\n \n".toList

theorem detect_reports_crowded :
    allBlank crowdedSource = false ∧ lineCount crowdedSource = 7 ∧
      (maskSource crowdedSource).length = 6 ∧
      (Kind.consoleLog.rule (maskSource crowdedSource)).map Issue.line = [some 3] ∧
      (Kind.multipleEmptyLines.rule (maskSource crowdedSource)).map Issue.line =
        [some 1, some 5] ∧
      Reports .strict (maskSource crowdedSource) (detect .strict crowdedSource) :=
  have visible : allBlank crowdedSource = false := by decide +kernel
  ⟨visible, by decide +kernel, by decide +kernel, by decide +kernel, by decide +kernel,
    (detect_reports .strict visible).2⟩

end FlowAudit
