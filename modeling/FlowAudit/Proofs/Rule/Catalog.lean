import FlowAudit.Proofs.Order.StableSort
import FlowAudit.Rule.Detect

/-!
# FlowAudit.Proofs.Rule.Catalog

**Levels are projections of the catalog.** What a level reports is what the strictest level reports,
less the issues whose kind the level leaves out; nothing is moved, merged or worded differently.

Three facts carry this. A rule reports issues of its own kind only (`rule_kind`), so leaving out the
issues of a kind is leaving out its rule (`filter_reportOf`). Rules look at the masked lines and not
at each other's issues, which is why a report is a function of the lines (`reportOf`). And leaving
issues out commutes with ordering the rest by line (`filter_mergeSort_key`).
-/

namespace FlowAudit

open FlowAudit.Text FlowAudit.Source

/-! ### Each rule reports its own kind -/

@[simp]
theorem Issue.located_kind (kind : Kind) (line : Nat) (detail : String) :
    (Issue.located kind line detail).kind = kind := rfl

/-- A list made by locating issues of one kind holds issues of that kind only. -/
theorem kind_of_mem_map_located {α : Type} {kind : Kind} {line : α → Nat} {detail : α → String}
    {members : List α} {issue : Issue}
    (h : issue ∈ members.map fun a => Issue.located kind (line a) (detail a)) :
    issue.kind = kind := by
  obtain ⟨a, -, rfl⟩ := List.mem_map.mp h
  rfl

/-- **A rule reports issues of its own kind only.** -/
theorem rule_kind {kind : Kind} {lines : List Line} {issue : Issue}
    (h : issue ∈ kind.rule lines) : issue.kind = kind := by
  cases kind with
  | topLevelReturn => exact kind_of_mem_map_located h
  | consoleLog =>
      obtain ⟨line, -, found⟩ := List.mem_flatMap.mp h
      exact kind_of_mem_map_located found
  | nodeWarn =>
      obtain ⟨line, -, found⟩ := List.mem_flatMap.mp h
      exact kind_of_mem_map_located found
  | debuggerStatement => exact kind_of_mem_map_located h
  | todoComment => exact kind_of_mem_map_located h
  | unusedVariable =>
      obtain ⟨line, -, found⟩ := List.mem_flatMap.mp h
      obtain ⟨name, -, reported⟩ := List.mem_filterMap.mp found
      -- A name is passed over, or used, or gives the one issue of this rule.
      split at reported
      · exact absurd reported (by simp)
      · split at reported
        · obtain rfl := Option.some.inj reported
          rfl
        · exact absurd reported (by simp)
  | hardcodedTest =>
      obtain ⟨line, -, found⟩ := List.mem_filterMap.mp h
      obtain ⟨value, -, rfl⟩ := Option.map_eq_some_iff.mp found
      rfl
  | multipleEmptyLines => exact kind_of_mem_map_located h

/-! ### Reports of some kinds -/

/-- What the rules of the wanted kinds find, ordered by line and within a line by catalog order. -/
def reportOf (wanted : Kind → Bool) (lines : List Line) : List Issue :=
  ((Kind.all.filter wanted).flatMap fun kind => kind.rule lines).mergeSort
    fun a b => a.position ≤ b.position

/-- Detecting at a level reports the kinds enabled there, unless the source is blank. -/
theorem detect_eq_reportOf (level : Level) (source : List Char) :
    detect level source =
      if allBlank source then [] else reportOf (·.enabledAt level) (maskSource source) := rfl

/-- Leaving out the issues of some kinds is leaving out their rules. -/
theorem filter_flatMap_rule (test : Kind → Bool) (lines : List Line) (kinds : List Kind) :
    (kinds.flatMap fun kind => kind.rule lines).filter (fun issue => test issue.kind) =
      (kinds.filter test).flatMap fun kind => kind.rule lines := by
  induction kinds with
  | nil => rfl
  | cons kind rest ih =>
      rw [List.flatMap_cons, List.filter_append, ih]
      by_cases h : test kind = true
      · rw [List.filter_cons_of_pos h, List.flatMap_cons, List.filter_eq_self.mpr]
        intro issue member
        rw [rule_kind member, h]
      · rw [List.filter_cons_of_neg h, List.filter_eq_nil_iff.mpr, List.nil_append]
        intro issue member
        rw [rule_kind member]
        exact h

/-- The issues of some of the kinds of a report are the report of those kinds. -/
theorem filter_reportOf (wanted test : Kind → Bool) (lines : List Line) :
    (reportOf wanted lines).filter (fun issue => test issue.kind) =
      reportOf (fun kind => wanted kind && test kind) lines := by
  unfold reportOf
  rw [filter_mergeSort_key, filter_flatMap_rule, List.filter_filter]
  congr 2
  exact List.filter_congr fun kind _ => Bool.and_comm _ _

/-- The issues of some kinds among those detected at a level. -/
theorem filter_detect (level : Level) (test : Kind → Bool) (source : List Char) :
    (detect level source).filter (fun issue => test issue.kind) =
      if allBlank source then []
      else reportOf (fun kind => kind.enabledAt level && test kind) (maskSource source) := by
  rw [detect_eq_reportOf]
  split
  · rfl
  · exact filter_reportOf _ _ _

/-! ### Levels -/

/-- The strictest level enables every kind. -/
theorem enabledAt_strict (kind : Kind) : kind.enabledAt .strict = true := by
  cases kind <;> rfl

/-- A level reports what the strictest one does, less the kinds that it leaves out. -/
theorem detect_eq_filter_strict (level : Level) (source : List Char) :
    detect level source =
      (detect .strict source).filter fun issue => issue.kind.enabledAt level := by
  rw [filter_detect .strict (·.enabledAt level)]
  simp only [enabledAt_strict, Bool.true_and]
  rfl

/-- **Levels are projections of the catalog**: a level reports exactly those issues of the strictest
level whose kind begins at it or below, in their order, and a lower level never reports more than a
higher one, nor in another order. -/
theorem detect_projection (level : Level) (source : List Char) :
    detect level source =
        (detect .strict source).filter
          (fun issue => issue.kind.minLevel.number ≤ level.number) ∧
      ∀ higher : Level, level.number ≤ higher.number →
        (detect level source).Sublist (detect higher source) := by
  refine ⟨detect_eq_filter_strict level source, ?_⟩
  intro higher upward
  -- Both are what the strictest level reports, less what a test leaves out.
  have nested : detect level source =
      (detect higher source).filter fun issue => issue.kind.enabledAt level := by
    rw [detect_eq_filter_strict level, detect_eq_filter_strict higher, List.filter_filter]
    refine List.filter_congr fun issue _ => ?_
    have within : issue.kind.enabledAt level = true → issue.kind.enabledAt higher = true := by
      simp only [Kind.enabledAt, decide_eq_true_eq]
      exact fun low => Nat.le_trans low upward
    cases enabled : issue.kind.enabledAt level with
    | false => rfl
    | true => rw [within enabled]; rfl
  rw [nested]
  exact List.filter_sublist

/-- The lowest level against the strictest one, on a source with issues of three kinds on one line
and a run of empty lines before a bare return. -/
theorem detect_projection_sample :
    Level.basic.number ≤ Level.strict.number ∧
      (detect .basic "debugger; console.log(1); // TODO\n\n\nreturn;".toList).Sublist
        (detect .strict "debugger; console.log(1); // TODO\n\n\nreturn;".toList) :=
  ⟨by decide, (detect_projection .basic _).2 .strict (by decide)⟩

end FlowAudit
