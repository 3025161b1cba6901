import FlowAudit.Proofs.Source.Juncture
import Mathlib.Data.List.Forall2

/-!
# FlowAudit.Proofs.Source.Nesting

**A source inside braces.** What the masking machine reads never depends on how many braces are open: the
depth is only counted. So a source that stands inside a block is masked to the same code as on its own,
line by line, and only begins deeper (`maskLines_deeper`).

How much deeper is not the same throughout. A closing brace with none open is ignored, and what is surplus
on its own closes the block around it inside; from there on both count the same. What is kept is that the
inner depth is never the lesser one (`Scan.Deeper`), through every step of the machine, whatever the
source is and in whatever mode it ends.
-/

namespace FlowAudit.Source

/-! ### Lines of a source that goes on -/

/-- A source that goes on keeps the lines it has. -/
theorem rawLines_prefix (source more : List Char) :
    rawLines source <+: rawLines (source ++ '\n' :: more) := by
  rw [rawLines_append_newline]
  refine List.IsPrefix.trans ?_ (List.prefix_append _ _)
  have filled : (source ++ ['\n']).isEmpty = false := by
    cases source <;> rfl
  have ended : dropFinal '\n' (source ++ ['\n']) = source := by
    rw [dropFinal_append '\n' source (List.cons_ne_nil _ _)]
    exact List.append_nil source
  rw [rawLines, rawLines, filled, if_neg Bool.false_ne_true, ended]
  by_cases empty : source.isEmpty
  · rw [if_pos empty]
    exact List.nil_prefix
  · rw [if_neg empty]
    refine List.IsPrefix.map _ ?_
    -- Without its final line feed the source lacks the empty piece after it, if it has one.
    by_cases final : source.getLast? = some '\n'
    · obtain ⟨first, rfl⟩ := List.getLast?_eq_some_iff.mp final
      rw [dropFinal, if_pos final, List.dropLast_concat, splitAtNewlines_append_newline]
      exact List.prefix_append _ _
    · have kept : dropFinal '\n' source = source := if_neg final
      exact ⟨[], by rw [kept, List.append_nil]⟩

/-- **Masking a prefix does not depend on what follows.** -/
theorem maskSource_prefix (source more : List Char) :
    maskSource source <+: maskSource (source ++ '\n' :: more) := by
  obtain ⟨after, lines⟩ := rawLines_prefix source more
  rw [maskSource, maskSource, ← lines, maskLines_append]
  exact List.prefix_append _ _

/-! ### Deeper states -/

/-- The same to be carried on, but for braces that are open in addition. -/
def Carry.Deeper (carry inner : Carry) : Prop :=
  ∃ depth, carry.depth ≤ depth ∧ inner = { carry with depth }

/-- The same state, but for braces that are open in addition. -/
def Scan.Deeper (s inner : Scan) : Prop :=
  ∃ depth, s.carry.depth ≤ depth ∧ inner = { s with carry := { s.carry with depth } }

/-- The same text and code, begun with at least as many braces open. -/
structure Line.Deeper (line inner : Line) : Prop where
  raw : inner.raw = line.raw
  code : inner.code = line.code
  depth : line.depth ≤ inner.depth

namespace Scan.Deeper

variable {s inner : Scan}

theorem pushCode (h : s.Deeper inner) (c : Char) : (s.pushCode c).Deeper (inner.pushCode c) := by
  obtain ⟨depth, deeper, rfl⟩ := h
  exact ⟨depth, deeper, rfl⟩

theorem pushLiteral (h : s.Deeper inner) (c : Char) :
    (s.pushLiteral c).Deeper (inner.pushLiteral c) := by
  obtain ⟨depth, deeper, rfl⟩ := h
  exact ⟨depth, deeper, rfl⟩

theorem skipping (h : s.Deeper inner) (count : Nat) :
    (s.skipping count).Deeper (inner.skipping count) := by
  obtain ⟨depth, deeper, rfl⟩ := h
  exact ⟨depth, deeper, rfl⟩

/-- One more open brace on both sides, unless an interpolation counts it. -/
theorem openBrace (h : s.Deeper inner) : s.openBrace.Deeper inner.openBrace := by
  obtain ⟨depth, deeper, rfl⟩ := h
  unfold Scan.openBrace
  dsimp only
  split
  · exact ⟨depth, deeper, rfl⟩
  · exact ⟨depth + 1, Nat.add_le_add_right deeper 1, rfl⟩

/-- One open brace less on both sides. With none left on the lesser side the other one catches up. -/
theorem closeBrace (h : s.Deeper inner) : s.closeBrace.Deeper inner.closeBrace := by
  obtain ⟨depth, deeper, rfl⟩ := h
  unfold Scan.closeBrace
  dsimp only
  split
  · exact ⟨depth, deeper, rfl⟩
  · exact ⟨depth, deeper, rfl⟩
  · exact ⟨depth - 1, Nat.sub_le_sub_right deeper 1, rfl⟩

theorem escapeStep (h : s.Deeper inner) (rest : List Char) :
    (s.escapeStep rest).Deeper (inner.escapeStep rest) := by
  cases rest with
  | nil => exact h
  | cons escaped more => exact (h.pushLiteral escaped).skipping 1

theorem codeStep (h : s.Deeper inner) (c : Char) (rest : List Char) :
    (s.codeStep c rest).Deeper (inner.codeStep c rest) := by
  have code : inner.found.code = s.found.code := by
    obtain ⟨depth, deeper, rfl⟩ := h
    rfl
  unfold Scan.codeStep
  rw [code]
  split
  · split
    · obtain ⟨depth, deeper, rfl⟩ := h
      exact ⟨depth, deeper, rfl⟩
    · obtain ⟨depth, deeper, rfl⟩ := h
      exact ⟨depth, deeper, rfl⟩
    · split
      · exact (((h.pushCode _).pushCode _).pushCode _).skipping _
      · exact h.pushCode c
  · split
    · obtain ⟨depth, deeper, rfl⟩ := h
      exact ⟨depth, deeper, rfl⟩
    · split
      · obtain ⟨depth, deeper, rfl⟩ := h
        exact ⟨depth, deeper, rfl⟩
      · split
        · exact h.openBrace
        · split
          · exact h.closeBrace
          · exact h.pushCode c

theorem commentStep (h : s.Deeper inner) (c : Char) (rest : List Char) :
    (s.commentStep c rest).Deeper (inner.commentStep c rest) := by
  obtain ⟨depth, deeper, rfl⟩ := h
  unfold Scan.commentStep
  split <;> exact ⟨depth, deeper, rfl⟩

theorem quotedStep (h : s.Deeper inner) (quote c : Char) (rest : List Char) :
    (s.quotedStep quote c rest).Deeper (inner.quotedStep quote c rest) := by
  unfold Scan.quotedStep
  split
  · exact h.escapeStep rest
  · obtain ⟨depth, deeper, rfl⟩ := h
    split <;> exact ⟨depth, deeper, rfl⟩

theorem templateStep (h : s.Deeper inner) (c : Char) (rest : List Char) :
    (s.templateStep c rest).Deeper (inner.templateStep c rest) := by
  unfold Scan.templateStep
  split
  · exact h.escapeStep rest
  · obtain ⟨depth, deeper, rfl⟩ := h
    split
    · exact ⟨depth, deeper, rfl⟩
    · split <;> exact ⟨depth, deeper, rfl⟩

/-- **Every step reads the same** and leaves the inner state the deeper one. -/
theorem step (h : s.Deeper inner) (c : Char) (rest : List Char) :
    (s.step c rest).Deeper (inner.step c rest) := by
  have skip : inner.skip = s.skip := by
    obtain ⟨depth, deeper, rfl⟩ := h
    rfl
  have mode : inner.carry.mode = s.carry.mode := by
    obtain ⟨depth, deeper, rfl⟩ := h
    rfl
  unfold Scan.step
  rw [skip, mode]
  split
  · exact h.skipping _
  · split
    · exact h.codeStep c rest
    · exact h.commentStep c rest
    · exact h.quotedStep _ c rest
    · exact h.templateStep c rest

/-- A whole line is read the same. -/
theorem run (h : s.Deeper inner) (text : List Char) : (s.run text).Deeper (inner.run text) := by
  induction text generalizing s inner with
  | nil => exact h
  | cons c rest ih => exact ih (h.step c rest)

theorem endLine (h : s.Deeper inner) : s.endLine.Deeper inner.endLine := by
  obtain ⟨depth, deeper, rfl⟩ := h
  unfold Scan.endLine
  dsimp only
  split <;> exact ⟨depth, deeper, rfl⟩

end Scan.Deeper

/-! ### Lines -/

/-- A line that begins deeper is masked to the same code and leaves a deeper state. -/
theorem maskLine_deeper {carry inner : Carry} (h : carry.Deeper inner) (number number' : Nat)
    (raw : List Char) :
    (maskLine carry number raw).1.Deeper (maskLine inner number' raw).1 ∧
      (maskLine carry number raw).2.Deeper (maskLine inner number' raw).2 := by
  obtain ⟨depth, deeper, rfl⟩ := h
  have begun : Scan.Deeper { carry } { carry := { carry with depth } } := ⟨depth, deeper, rfl⟩
  obtain ⟨depth', deeper', ended⟩ := (begun.run raw).endLine
  unfold maskLine
  rw [ended]
  exact ⟨⟨rfl, rfl, deeper⟩, depth', deeper', rfl⟩

/-- **Lines that begin deeper are masked to the same code**, and each of them begins at least as deep. -/
theorem maskLines_deeper {carry inner : Carry} (h : carry.Deeper inner) (number number' : Nat)
    (raws : List (List Char)) :
    List.Forall₂ Line.Deeper (maskLines carry number raws) (maskLines inner number' raws) := by
  induction raws generalizing carry inner number number' with
  | nil => exact .nil
  | cons raw rest ih =>
      obtain ⟨line, left⟩ := maskLine_deeper h number number' raw
      exact .cons line (ih left (number + 1) (number' + 1))

/-- Code that begins deeper leads at least as deep. -/
theorem deepest_mono {depth depth' : Nat} (deeper : depth ≤ depth') (code : List Char) :
    deepest depth code ≤ deepest depth' code := by
  induction code generalizing depth depth' with
  | nil => exact Nat.le_refl 0
  | cons c rest ih =>
      rw [deepest, deepest]
      split
      · have opened := ih (Nat.add_le_add_right deeper 1)
        omega
      · split
        · exact ih (Nat.sub_le_sub_right deeper 1)
        · exact ih deeper

/-- A block around a source: a condition before it, which opens a brace, and the closing brace after it,
each on a line of its own. -/
def inBlock (source : List Char) : List Char :=
  "if (x) \x7b\n".toList ++ (source ++ "\n\x7d".toList)

/-- The lines of a source in a block stand between the two lines of the block. They are the lines of the
source with a line feed after it, masked from a state with one brace open. -/
theorem maskSource_inBlock (source : List Char) :
    ∃ inner last, maskSource (inBlock source) =
        (maskLine {} 1 "if (x) \x7b".toList).1 :: (inner ++ [last]) ∧
      List.Forall₂ Line.Deeper (maskSource (source ++ ['\n'])) inner ∧ last.raw = ['\x7d'] := by
  have lines : rawLines (inBlock source) =
      "if (x) \x7b".toList :: (rawLines (source ++ ['\n']) ++ [['\x7d']]) := by
    have whole : inBlock source = "if (x) \x7b".toList ++ '\n' :: (source ++ '\n' :: ['\x7d']) := rfl
    rw [whole, rawLines_append_newline, rawLines_append_newline source]
    rfl
  obtain ⟨opened, left, deeper⟩ : ∃ opened, (maskLine {} 1 "if (x) \x7b".toList).2 = opened ∧
      Carry.Deeper {} opened := ⟨_, rfl, 1, Nat.zero_le 1, rfl⟩
  have masked : maskSource (inBlock source) = (maskLine {} 1 "if (x) \x7b".toList).1 ::
      (maskLines opened 2 (rawLines (source ++ ['\n'])) ++
        [(maskLine (carryAfter opened (rawLines (source ++ ['\n'])))
          (2 + (rawLines (source ++ ['\n'])).length) ['\x7d']).1]) := by
    rw [maskSource, lines, maskLines_cons, maskLines_append, left]
    rfl
  exact ⟨_, _, masked, maskLines_deeper deeper 1 2 _, rfl⟩

end FlowAudit.Source
