import FlowAudit.Proofs.Rule.BareReturn
import FlowAudit.Proofs.Source.Depth
import Mathlib.Algebra.GroupWithZero.Nat
import Mathlib.Data.List.Nodup

/-!
# FlowAudit.Proofs.Rule.TopLevelReturn

**Which lines are reported for a return.** The rule reports the lines on which a bare return that it reads
is outermost: at depth zero, and not the body of a header on the lines before. These are all lines with
an outermost bare return only as long as none of them begins right after one that is not outermost
(`topLevelReturn_maskSource`), for such a return is not read
(`topLevelReturn_misses_return_after_block`).
-/

namespace FlowAudit.Rule

open FlowAudit.Text FlowAudit.Source

/-! ### Outermost returns -/

/-- How many bytes of UTF-8 a text takes. -/
def byteLength (text : List Char) : Nat :=
  (text.map Char.utf8Size).sum

theorem takeBytes?_byteLength (before after : List Char) :
    takeBytes? (byteLength before) (before ++ after) = some before := by
  induction before with
  | nil => cases after <;> rfl
  | cons c before ih =>
      have positive := c.utf8Size_pos
      have size : byteLength (c :: before) = c.utf8Size + byteLength before := rfl
      obtain ⟨less, hless⟩ : ∃ less, c.utf8Size + byteLength before = less + 1 :=
        ⟨_, (Nat.sub_add_cancel (by omega)).symm⟩
      have left : less + 1 - c.utf8Size = byteLength before := by omega
      rw [size, hless, List.cons_append, takeBytes?, if_pos (by omega), left, ih]
      rfl

theorem depthAt?_byteLength (line : Line) (offset : Nat) :
    line.depthAt? (byteLength (line.code.take offset)) =
      some (depthAfter line.depth (line.code.take offset)) := by
  have taken := takeBytes?_byteLength (line.code.take offset) (line.code.drop offset)
  rw [List.take_append_drop] at taken
  rw [Line.depthAt?, taken]
  rfl

/-- A return at an offset of a line is at depth zero, and it is not the body of a header on the lines
before, which would be the first thing on its line. -/
structure Outermost (state : HeaderState) (line : Line) (offset : Nat) : Prop where
  depth : line.depthAt? (byteLength (line.code.take offset)) = some 0
  body : ¬ (allBlank (line.code.take offset) = true ∧ state.pending = true)

theorem reportsReturn_iff {state : HeaderState} {line : Line} {offset : Nat} :
    reportsReturn state line offset = true ↔ Outermost state line offset := by
  have body : (!(allBlank (line.code.take offset) && state.pending)) = true ↔
      ¬ (allBlank (line.code.take offset) = true ∧ state.pending = true) := by
    rw [Bool.not_eq_true', ← Bool.not_eq_true, Bool.and_eq_true]
  have depth : (depthAfter line.depth (line.code.take offset) == 0) = true ↔
      line.depthAt? (byteLength (line.code.take offset)) = some 0 := by
    rw [depthAt?_byteLength, Option.some.injEq, beq_iff_eq]
  rw [reportsReturn, Bool.and_eq_true, body, depth]
  exact ⟨fun h => ⟨h.2, h.1⟩, fun h => ⟨h.body, h.depth⟩⟩

/-! ### Lines -/

/-- The state after some lines. Lines without code change nothing. -/
def HeaderState.after (state : HeaderState) (lines : List Line) : HeaderState :=
  (lines.filter fun line => !allBlank line.code).foldl (fun s line => s.advance line.code) state

theorem topLevelReturns_append (state : HeaderState) (first more : List Line) :
    topLevelReturns state (first ++ more) =
      topLevelReturns state first ++ topLevelReturns (state.after first) more := by
  induction first generalizing state with
  | nil => rfl
  | cons line rest ih =>
      rw [List.cons_append, topLevelReturns, topLevelReturns]
      by_cases blank : allBlank line.code = true
      · rw [if_pos blank, if_pos blank, ih]
        simp [HeaderState.after, blank]
      · rw [if_neg blank, if_neg blank, ih]
        have next : state.after (line :: rest) = (state.advance line.code).after rest := by
          simp [HeaderState.after, blank]
        rw [next]
        split <;> rfl

theorem topLevelReturns_sublist (state : HeaderState) (lines : List Line) :
    (topLevelReturns state lines).Sublist lines := by
  induction lines generalizing state with
  | nil => exact .slnil
  | cons line rest ih =>
      rw [topLevelReturns]
      split
      · exact (ih state).cons line
      · show (if _ then _ else _ : List Line).Sublist (line :: rest)
        split
        · exact (ih _).cons_cons line
        · exact (ih _).cons line

/-- A line is reported for an outermost return that the rule looks at. -/
theorem topLevelReturns_singleton (state : HeaderState) (line : Line) :
    (topLevelReturns state [line] = [] ∨ topLevelReturns state [line] = [line]) ∧
      (topLevelReturns state [line] ≠ [] ↔
        ∃ offset, Visited line.code offset ∧ Outermost state line offset) := by
  have reported : (bareReturns line.code).any (reportsReturn state line) = true ↔
      ∃ offset, Visited line.code offset ∧ Outermost state line offset := by
    simp only [List.any_eq_true, mem_bareReturns, reportsReturn_iff]
  rw [← reported]
  by_cases blank : allBlank line.code = true
  · have nothing : (bareReturns line.code).any (reportsReturn state line) = false := by
      rw [← Bool.not_eq_true, reported]
      rintro ⟨offset, visited, -⟩
      -- The word is no blank.
      have letter : 'r' ∈ line.code :=
        List.mem_of_mem_drop (visited.isBareReturn.word.subset (List.mem_cons_self))
      have := List.all_eq_true.mp blank 'r' letter
      cases this
    simp [topLevelReturns, blank, nothing]
  · cases found : (bareReturns line.code).any (reportsReturn state line) <;>
      simp [topLevelReturns, blank, found]

/-! ### Reports -/

/-- The issue that the rule reports at a line. -/
def returnIssue (line : Line) : Issue :=
  .located .topLevelReturn line.number "remove this return, the code after it never runs"

/-- The issues of the rule at a line. -/
def issuesAt (line : Line) (lines : List Line) : List Issue :=
  (topLevelReturn lines).filter (·.line = some line.number)

theorem issuesAt_eq (line : Line) (lines : List Line) :
    issuesAt line lines =
      ((topLevelReturns {} lines).filter (·.number = line.number)).map returnIssue := by
  have located (other : Line) :
      decide ((returnIssue other).line = some line.number) = decide (other.number = line.number) :=
    decide_eq_decide.mpr (by simp [returnIssue, Issue.located])
  show ((topLevelReturns {} lines).map returnIssue).filter _ = _
  rw [List.filter_map]
  exact congrArg (List.map returnIssue) (List.filter_congr fun other _ => located other)

/-- Of lines with other numbers none is found. -/
theorem filter_number_eq_nil {line : Line} {found lines : List Line} (among : found.Sublist lines)
    (apart : line.number ∉ lines.map Line.number) :
    found.filter (·.number = line.number) = [] := by
  rw [List.filter_eq_nil_iff]
  intro other member same
  exact apart (List.mem_map.mpr ⟨other, among.subset member, of_decide_eq_true same⟩)

/-- The issues at a line are those that the rule finds on it alone, in the state after the lines before. -/
theorem issuesAt_maskSource {source : List Char} {before after : List Line} {line : Line}
    (cut : maskSource source = before ++ line :: after) :
    issuesAt line (maskSource source) =
      (topLevelReturns (HeaderState.after {} before) [line]).map returnIssue := by
  have distinct : ((before ++ line :: after).map Line.number).Nodup := by
    rw [← cut, maskSource, maskLines_numbers]
    exact List.nodup_range'
  rw [List.map_append, List.map_cons, List.nodup_middle, List.nodup_cons, List.mem_append,
    not_or] at distinct
  obtain ⟨⟨apartBefore, apartAfter⟩, -⟩ := distinct
  have early := filter_number_eq_nil (topLevelReturns_sublist {} before) apartBefore
  have late := filter_number_eq_nil
    (topLevelReturns_sublist ((HeaderState.after {} before).after [line]) after) apartAfter
  have here : (topLevelReturns (HeaderState.after {} before) [line]).filter
      (·.number = line.number) = topLevelReturns (HeaderState.after {} before) [line] := by
    rw [List.filter_eq_self]
    intro other member
    have same := (topLevelReturns_sublist _ _).subset member
    rw [List.mem_singleton.mp same]
    exact decide_eq_true rfl
  rw [issuesAt_eq, cut, topLevelReturns_append, ← List.singleton_append, topLevelReturns_append,
    List.filter_append, List.filter_append, early, here, late, List.nil_append, List.append_nil]

/-- What the rule reports at a line, given what the lines before it say about the next statement. -/
structure ReportsReturns (state : HeaderState) (line : Line) (issues : List Issue) : Prop where
  once : issues = [] ∨ issues = [returnIssue line]
  visited : issues ≠ [] ↔ ∃ offset, Visited line.code offset ∧ Outermost state line offset
  sound : issues ≠ [] → ∃ offset, IsBareReturn line.code offset ∧ Outermost state line offset
  /-- If no outermost return begins right after one that is not outermost, none is missed. -/
  complete : (∀ offset next, IsBareReturn line.code offset → IsBareReturn line.code next →
      Abuts line.code offset next → Outermost state line next → Outermost state line offset) →
    (issues ≠ [] ↔ ∃ offset, IsBareReturn line.code offset ∧ Outermost state line offset)

/-- **What the rule reports.** Every issue is the one of some line. A line has one issue if a return on
it that the rule looks at is outermost, and none otherwise. So a line with an issue has an outermost
bare return; and a line with an outermost bare return has an issue, unless such a return begins right
after one that is not outermost. -/
theorem topLevelReturn_maskSource (source : List Char) :
    (∀ issue ∈ topLevelReturn (maskSource source), ∃ line ∈ maskSource source,
      issue = returnIssue line) ∧
    ∀ before line after, maskSource source = before ++ line :: after →
      ReportsReturns (HeaderState.after {} before) line (issuesAt line (maskSource source)) := by
  refine ⟨fun issue member => ?_, fun before line after cut => ?_⟩
  · obtain ⟨line, reported, rfl⟩ := List.mem_map.mp member
    exact ⟨line, (topLevelReturns_sublist {} _).subset reported, rfl⟩
  · rw [issuesAt_maskSource cut]
    generalize HeaderState.after {} before = state
    obtain ⟨once, found⟩ := topLevelReturns_singleton state line
    have visited : (topLevelReturns state [line]).map returnIssue ≠ [] ↔
        ∃ offset, Visited line.code offset ∧ Outermost state line offset := by
      rw [ne_eq, List.map_eq_nil_iff]
      exact found
    have sound : (∃ offset, Visited line.code offset ∧ Outermost state line offset) →
        ∃ offset, IsBareReturn line.code offset ∧ Outermost state line offset :=
      fun ⟨offset, seen, outermost⟩ => ⟨offset, seen.isBareReturn, outermost⟩
    refine ⟨?_, visited, fun issues => sound (visited.mp issues), fun clear => ?_⟩
    · rcases once with none | one
      · exact Or.inl (by rw [none]; rfl)
      · exact Or.inr (by rw [one]; rfl)
    · refine ⟨fun issues => sound (visited.mp issues), fun ⟨offset, bare, outermost⟩ => ?_⟩
      rw [visited]
      by_cases seen : Visited line.code offset
      · exact ⟨offset, seen, outermost⟩
      · -- The return is passed over for the one right before, which is then outermost too.
        rw [← mem_bareReturns, mem_bareReturns_iff] at seen
        obtain ⟨before, read, abuts⟩ :
            ∃ before ∈ bareReturns line.code, Abuts line.code before offset := by
          simpa [bare] using seen
        have looked := mem_bareReturns.mp read
        exact ⟨before, looked, clear before offset looked.isBareReturn bare abuts outermost⟩

/-- On the second line three returns abut one another. The first one is the body of the header, and the
second one is passed over; the line is reported for the third one. -/
theorem topLevelReturn_maskSource_third :
    ∃ header line, maskSource "if (a)\n  return; return; return;".toList = [header] ++ [line] ∧
      ReportsReturns (HeaderState.after {} [header]) line
        (issuesAt line (maskSource "if (a)\n  return; return; return;".toList)) ∧
      issuesAt line (maskSource "if (a)\n  return; return; return;".toList) = [returnIssue line] :=
  ⟨_, _, rfl, (topLevelReturn_maskSource _).2 _ _ _ rfl, by decide +kernel⟩

/-- The second return stands after the block and is outermost, but the closing brace before it has been
read with the first one. -/
theorem topLevelReturn_misses_return_after_block :
    ∃ line, maskSource "if (a) { return } return;".toList = [] ++ [line] ∧
      IsBareReturn line.code 18 ∧ Outermost (HeaderState.after {} []) line 18 ∧
      issuesAt line (maskSource "if (a) { return } return;".toList) = [] :=
  ⟨_, rfl, by decide +kernel, ⟨by decide +kernel, by decide +kernel⟩, by decide +kernel⟩

end FlowAudit.Rule
