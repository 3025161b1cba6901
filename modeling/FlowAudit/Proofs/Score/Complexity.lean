import FlowAudit.Proofs.Number.Real
import FlowAudit.Proofs.Source.Nesting
import FlowAudit.Score.Complexity
import Mathlib.Tactic.Linarith

/-!
# FlowAudit.Proofs.Score.Complexity

**Complexity never falls as a source grows** (`complexity_grows`). More lines after a source leave its own
lines as they are masked, and every line only adds to the counts. A block around a source leaves its code
as it is and its depth no lesser, so that decisions and lines are counted as before and nesting is at least
what it was; the line before it adds a decision.

The score is read over the real numbers, where the root of the line count is exact. It grows with every
one of the three counts.
-/

namespace FlowAudit

open FlowAudit.Source

namespace ComplexityCounts

/-- From one source to another all counts grow, those of decision points and of lines by at least so
much. -/
structure Grows (points lines : Nat) (counts counts' : ComplexityCounts) : Prop where
  decisions : counts.decisions + points ≤ counts'.decisions
  nesting : counts.nesting ≤ counts'.nesting
  nonBlank : counts.nonBlank + lines ≤ counts'.nonBlank

/-! ### Counting lines -/

namespace Grows

variable {points lines : Nat} {counts counts' : ComplexityCounts}

theorem refl (counts : ComplexityCounts) : Grows 0 0 counts counts :=
  ⟨Nat.le_refl _, Nat.le_refl _, Nat.le_refl _⟩

theorem trans {morePoints moreLines : Nat} {counts'' : ComplexityCounts}
    (first : Grows points lines counts counts') (second : Grows morePoints moreLines counts' counts'') :
    Grows (points + morePoints) (lines + moreLines) counts counts'' where
  decisions := by
    have := first.decisions
    have := second.decisions
    omega
  nesting := first.nesting.trans second.nesting
  nonBlank := by
    have := first.nonBlank
    have := second.nonBlank
    omega

/-- A line adds to the counts. -/
theorem of_addLine (counts : ComplexityCounts) (line : Line) : Grows 0 0 counts (counts.addLine line) := by
  unfold addLine
  split
  · exact refl counts
  · exact ⟨Nat.le_add_right _ _, Nat.le_max_left _ _, Nat.le_add_right _ _⟩

/-- A line that is not blank adds one to the lines. -/
theorem of_addLine_visible (counts : ComplexityCounts) {line : Line} (visible : line.isBlank = false) :
    Grows 0 1 counts (counts.addLine line) := by
  unfold addLine
  rw [if_neg (by rw [visible]; exact Bool.false_ne_true)]
  exact ⟨Nat.le_add_right _ _, Nat.le_max_left _ _, Nat.le_refl _⟩

/-- **Every line adds to the counts.** -/
theorem of_foldl (counts : ComplexityCounts) (more : List Line) :
    Grows 0 0 counts (more.foldl addLine counts) := by
  induction more generalizing counts with
  | nil => exact refl counts
  | cons line rest ih => exact (of_addLine counts line).trans (ih _)

/-- A line and the same line deeper add the same, but for the nesting. -/
theorem addLine (h : Grows points lines counts counts') {line inner : Line}
    (deeper : line.Deeper inner) :
    Grows points lines (counts.addLine line) (counts'.addLine inner) := by
  have blank : inner.isBlank = line.isBlank := congrArg Text.allBlank deeper.raw
  unfold ComplexityCounts.addLine
  rw [blank, deeper.code]
  split
  · exact h
  · have nesting := deepest_mono deeper.depth line.code
    have := h.decisions
    have := h.nesting
    have := h.nonBlank
    constructor <;> simp only <;> omega

/-- **Lines and the same lines deeper add the same**, but for the nesting, which the deeper ones may add
more to. -/
theorem foldl (h : Grows points lines counts counts') {outer inner : List Line}
    (deeper : List.Forall₂ Line.Deeper outer inner) :
    Grows points lines (outer.foldl ComplexityCounts.addLine counts)
      (inner.foldl ComplexityCounts.addLine counts') := by
  induction deeper generalizing counts counts' with
  | nil => exact h
  | cons head _ ih => exact ih (h.addLine head)

end Grows

/-- The counts of a source that goes on. -/
theorem grows_append (source more : List Char) :
    Grows 0 0 (ofSource source) (ofSource (source ++ '\n' :: more)) := by
  obtain ⟨after, masked⟩ := maskSource_prefix source more
  rw [ofSource, ofSource, ← masked, List.foldl_append]
  exact Grows.of_foldl _ after

/-- The counts of a source in a block: one more decision at least, and the two lines around it. -/
theorem grows_inBlock (source : List Char) :
    Grows 1 2 (ofSource source) (ofSource (inBlock source)) := by
  obtain ⟨inner, last, masked, deeper, raw⟩ := maskSource_inBlock source
  have first : Grows 1 1 {} (addLine {} (maskLine {} 1 "if (x) \x7b".toList).1) := by
    constructor <;> decide +kernel
  have visible : last.isBlank = false := by
    rw [Line.isBlank, raw]
    decide
  have within := (first.foldl deeper).trans (Grows.of_addLine_visible _ visible)
  have whole : ofSource (inBlock source) =
      addLine (inner.foldl addLine (addLine {} (maskLine {} 1 "if (x) \x7b".toList).1)) last := by
    rw [ofSource, masked, List.foldl_cons, List.foldl_append]
    rfl
  rw [whole]
  exact (grows_append source []).trans within

/-! ### The score -/

section Score

variable {counts counts' : ComplexityCounts} {points lines : Nat}

theorem score_of_blank (blank : counts.nonBlank = 0) : (counts.score : ℝ) = 0 := by
  rw [score, if_pos blank]
  exact Nat.cast_zero

theorem score_of_visible (visible : counts.nonBlank ≠ 0) :
    (counts.score : ℝ) = counts.decisions + 2 * counts.nesting + 2⁻¹ * √counts.nonBlank := by
  rw [score, if_neg visible]
  show (counts.decisions : ℝ) + (2 : ℕ) * counts.nesting + (1 : ℕ) / (2 : ℕ) * √counts.nonBlank = _
  norm_num

/-- The score of a source that is not blank is at least its decisions and more. -/
theorem decisions_lt_score (visible : counts.nonBlank ≠ 0) :
    (counts.decisions : ℝ) < counts.score := by
  have root : 0 < √(counts.nonBlank : ℝ) :=
    Real.sqrt_pos.mpr (Nat.cast_pos.mpr (Nat.pos_of_ne_zero visible))
  have nesting : (0 : ℝ) ≤ counts.nesting := Nat.cast_nonneg _
  rw [score_of_visible visible]
  linarith

/-- **The score grows with the counts**, and by one for every decision more. -/
theorem Grows.score_le (h : Grows points lines counts counts')
    (counted : points = 0 ∨ counts'.nonBlank ≠ 0) :
    (counts.score : ℝ) + points ≤ counts'.score := by
  by_cases visible' : counts'.nonBlank = 0
  · -- Neither source has a line that counts.
    have visible : counts.nonBlank = 0 := by
      have := h.nonBlank
      omega
    rw [score_of_blank visible, score_of_blank visible', counted.resolve_right (not_not.mpr visible')]
    simp
  · have more : (counts.decisions : ℝ) + points ≤ counts'.decisions := mod_cast h.decisions
    by_cases visible : counts.nonBlank = 0
    · have decided : (0 : ℝ) ≤ counts.decisions := Nat.cast_nonneg _
      have above := decisions_lt_score visible'
      rw [score_of_blank visible]
      linarith
    · have nesting : (counts.nesting : ℝ) ≤ counts'.nesting := mod_cast h.nesting
      have root : √(counts.nonBlank : ℝ) ≤ √counts'.nonBlank :=
        Real.sqrt_le_sqrt (mod_cast (Nat.le_add_right _ _).trans h.nonBlank)
      rw [score_of_visible visible, score_of_visible visible']
      linarith

/-- **The score grows strictly with each count.** -/
theorem Grows.score_lt (h : Grows 0 0 counts counts') (more : counts ≠ counts')
    (visible' : counts'.nonBlank ≠ 0) : (counts.score : ℝ) < counts'.score := by
  have decisions : (counts.decisions : ℝ) ≤ counts'.decisions := mod_cast h.decisions
  have nesting : (counts.nesting : ℝ) ≤ counts'.nesting := mod_cast h.nesting
  by_cases visible : counts.nonBlank = 0
  · have decided : (0 : ℝ) ≤ counts.decisions := Nat.cast_nonneg _
    have above := decisions_lt_score visible'
    rw [score_of_blank visible]
    linarith
  · have root : √(counts.nonBlank : ℝ) ≤ √counts'.nonBlank := Real.sqrt_le_sqrt (mod_cast h.nonBlank)
    rw [score_of_visible visible, score_of_visible visible']
    -- One of the three counts differs, and that one is greater.
    rcases Nat.lt_or_eq_of_le h.decisions with less | same
    · have greater : (counts.decisions : ℝ) < counts'.decisions := mod_cast less
      linarith
    · rcases Nat.lt_or_eq_of_le h.nesting with less | same'
      · have greater : (counts.nesting : ℝ) < counts'.nesting := mod_cast less
        linarith
      · rcases Nat.lt_or_eq_of_le h.nonBlank with less | same''
        · have greater : √(counts.nonBlank : ℝ) < √counts'.nonBlank :=
            Real.sqrt_lt_sqrt (Nat.cast_nonneg _) (mod_cast less)
          linarith
        · refine absurd ?_ more
          cases counts
          cases counts'
          cases same
          cases same'
          cases same''
          rfl

end Score

end ComplexityCounts

open ComplexityCounts

/-- **Complexity never falls as a source grows.** With a line feed and any text after it, all three counts
of a source are at least what they were, and so is its score. In a block of its own it has at least one
decision more and two lines more that are not blank, is nested no less deep, and its score is at least one
more; whatever its braces are and wherever it ends. And of any counts, more in one of them means a greater
score. -/
theorem complexity_grows :
    (∀ source more : List Char,
      Grows 0 0 (ofSource source) (ofSource (source ++ '\n' :: more)) ∧
      (complexity source : ℝ) ≤ complexity (source ++ '\n' :: more)) ∧
    (∀ source : List Char,
      Grows 1 2 (ofSource source) (ofSource (inBlock source)) ∧
      (complexity source : ℝ) + 1 ≤ complexity (inBlock source)) ∧
    ∀ counts counts' : ComplexityCounts, Grows 0 0 counts counts' →
      (counts.score : ℝ) ≤ counts'.score ∧
      (counts ≠ counts' → counts'.nonBlank ≠ 0 → (counts.score : ℝ) < counts'.score) := by
  refine ⟨fun source more => ⟨grows_append source more, ?_⟩,
    fun source => ⟨grows_inBlock source, ?_⟩,
    fun counts counts' grows => ⟨?_, fun more visible => grows.score_lt more visible⟩⟩
  · have score := (grows_append source more).score_le (Or.inl rfl)
    rw [Nat.cast_zero, add_zero] at score
    exact score
  · have grows := grows_inBlock source
    have visible : (ofSource (inBlock source)).nonBlank ≠ 0 := by
      have := grows.nonBlank
      omega
    have score := grows.score_le (Or.inr visible)
    rw [Nat.cast_one] at score
    exact score
  · simpa using grows.score_le (Or.inl rfl)

/-- A condition without and with braces, and a block around what has braces to spare and ends inside an
interpolation. -/
theorem complexity_grows_braces :
    (Grows 0 0 (ofSource "if (a) b();".toList) (ofSource "if (a) \x7b b(); \x7d".toList) ∧
      ofSource "if (a) b();".toList ≠ ofSource "if (a) \x7b b(); \x7d".toList ∧
      (ofSource "if (a) \x7b b(); \x7d".toList).nonBlank ≠ 0 ∧
      (complexity "if (a) b();".toList : ℝ) < complexity "if (a) \x7b b(); \x7d".toList) ∧
    (complexity "\x7d\x7d \x7b `a$\x7b \x7b".toList : ℝ) + 1 ≤
      complexity (inBlock "\x7d\x7d \x7b `a$\x7b \x7b".toList) := by
  have grows : Grows 0 0 (ofSource "if (a) b();".toList) (ofSource "if (a) \x7b b(); \x7d".toList) := by
    constructor <;> decide +kernel
  have more : ofSource "if (a) b();".toList ≠ ofSource "if (a) \x7b b(); \x7d".toList := by
    decide +kernel
  have visible : (ofSource "if (a) \x7b b(); \x7d".toList).nonBlank ≠ 0 := by decide +kernel
  exact ⟨⟨grows, more, visible, (complexity_grows.2.2 _ _ grows).2 more visible⟩,
    (complexity_grows.2.1 _).2⟩

end FlowAudit
