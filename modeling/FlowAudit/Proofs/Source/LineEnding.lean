import FlowAudit.Proofs.Source.Juncture
import FlowAudit.Rule.Detect
import FlowAudit.Score.Complexity
import FlowAudit.Score.Quality

/-!
# FlowAudit.Proofs.Source.LineEnding

**Where lines end.** Lines are counted in two ways: as pieces between line feeds (`lineCount`), and as
the lines that masking gives, to which a line feed at the very end adds none
(`length_maskSource`).

A line ends with a line feed or with a carriage return and a line feed. The two are told apart in
different places, since the last line feed is taken off before the source is cut and the carriage
returns after it. Cutting a source at its first line feed brings them together
(`rawLines_line`): the line before it loses its carriage return, and the rest is a source again. So
which of the two endings each line has is nothing to the lines (`rawLines_withReturns`), and to nothing
that is computed from them.
-/

namespace FlowAudit.Source

open FlowAudit.Text

/-! ### How many lines there are -/

theorem length_splitAtNewlines (text : List Char) :
    (splitAtNewlines text).length = lineCount text := by
  induction text with
  | nil => rfl
  | cons c rest ih =>
      obtain ⟨piece, pieces, hrest⟩ := exists_splitAtNewlines rest
      rw [splitAtNewlines, lineCount, List.count_cons]
      rw [lineCount] at ih
      by_cases hc : c = '\n'
      · simp [hc, ih]
      · rw [hrest] at ih ⊢
        simpa [hc] using ih

/-- Taking a line feed off the end takes one line off. -/
theorem lineCount_dropFinal (text : List Char) :
    lineCount (dropFinal '\n' text) =
      lineCount text - if text.getLast? = some '\n' then 1 else 0 := by
  unfold dropFinal
  split
  · next ended =>
      obtain ⟨most, rfl⟩ := List.getLast?_eq_some_iff.mp ended
      simp [lineCount]
  · rfl

/-- A source has as many masked lines as it has pieces between line feeds, or one less when it ends
with a line feed. The source without any characters has no lines. -/
theorem length_maskSource {source : List Char} (filled : source ≠ []) :
    (maskSource source).length =
      lineCount source - if source.getLast? = some '\n' then 1 else 0 := by
  rw [maskSource, length_maskLines, rawLines, if_neg (by simpa using filled), List.length_map,
    length_splitAtNewlines, lineCount_dropFinal]

/-! ### Carriage returns -/

/-- The text with a carriage return put before some of its line feeds. Line feeds are counted from
zero, and `chosen` says which of them get one. -/
def withReturns (chosen : Nat → Bool) : List Char → List Char
  | [] => []
  | c :: rest =>
    if c = '\n' then
      if chosen 0 then '\r' :: '\n' :: withReturns (fun i => chosen (i + 1)) rest
      else '\n' :: withReturns (fun i => chosen (i + 1)) rest
    else c :: withReturns chosen rest

/-- Cutting a source at its first line feed. -/
theorem rawLines_line {line : List Char} (h : '\n' ∉ line) (rest : List Char) :
    rawLines (line ++ '\n' :: rest) = dropFinal '\r' line :: rawLines rest := by
  have ended : dropFinal '\n' (line ++ ['\n']) = line := by
    rw [dropFinal_append '\n' line (List.cons_ne_nil _ _)]
    exact List.append_nil line
  have piece : splitAtNewlines line = [line] := by
    have nothing : splitAtNewlines [] = [[]] := rfl
    have whole := splitAtNewlines_append_of_not_mem h nothing
    rwa [List.append_nil] at whole
  have alone : rawLines (line ++ ['\n']) = [dropFinal '\r' line] := by
    simp [rawLines, ended, piece]
  rw [rawLines_append_newline, alone]
  rfl

/-- **A carriage return before a line feed is part of the line ending.** The induction is on the text
after the beginning of a line. -/
theorem rawLines_append_withReturns (line : List Char) {text : List Char} (oneLine : '\n' ∉ line)
    (plainLine : '\r' ∉ line) (plain : '\r' ∉ text) (chosen : Nat → Bool) :
    rawLines (line ++ withReturns chosen text) = rawLines (line ++ text) := by
  induction text generalizing line chosen with
  | nil => rfl
  | cons c rest ih =>
      obtain ⟨hc, hrest⟩ : '\r' ≠ c ∧ '\r' ∉ rest := by simpa using plain
      by_cases feed : c = '\n'
      · have later : rawLines (withReturns (fun i => chosen (i + 1)) rest) = rawLines rest :=
          ih [] (by simp) (by simp) hrest _
        have short : dropFinal '\r' (line ++ ['\r']) = line := by
          rw [dropFinal_append '\r' line (List.cons_ne_nil _ _)]
          exact List.append_nil line
        rw [withReturns, if_pos feed, feed]
        split
        · -- With a carriage return the line is longer by it until its ending is taken off.
          have longer : '\n' ∉ line ++ ['\r'] := by simp [oneLine]
          have cut := rawLines_line longer (withReturns (fun i => chosen (i + 1)) rest)
          rw [List.append_assoc, List.singleton_append] at cut
          rw [cut, short, later, rawLines_line oneLine, dropFinal_of_not_mem plainLine]
        · rw [rawLines_line oneLine, later, rawLines_line oneLine]
      · have next := ih (line ++ [c]) (by simp [oneLine, Ne.symm feed])
          (by simp [plainLine, hc]) hrest chosen
        rw [List.append_assoc, List.append_assoc] at next
        rw [withReturns, if_neg feed]
        exact next

theorem rawLines_withReturns {source : List Char} (plain : '\r' ∉ source) (chosen : Nat → Bool) :
    rawLines (withReturns chosen source) = rawLines source :=
  rawLines_append_withReturns [] (by simp) (by simp) plain chosen

/-- Carriage returns before line feeds add no line. -/
theorem lineCount_withReturns (chosen : Nat → Bool) (text : List Char) :
    lineCount (withReturns chosen text) = lineCount text := by
  induction text generalizing chosen with
  | nil => rfl
  | cons c rest ih =>
      rw [lineCount, lineCount, Nat.add_right_cancel_iff]
      have later (chosen : Nat → Bool) : (withReturns chosen rest).count '\n' = rest.count '\n' :=
        Nat.add_right_cancel (ih chosen)
      by_cases feed : c = '\n'
      · rw [withReturns, if_pos feed]
        split <;> simp [feed, later]
      · simp [withReturns, feed, later]

/-- A carriage return is a blank, so it makes no source visible. -/
theorem allBlank_withReturns (chosen : Nat → Bool) (text : List Char) :
    allBlank (withReturns chosen text) = allBlank text := by
  have blank : isBlank '\r' = true := by decide
  induction text generalizing chosen with
  | nil => rfl
  | cons c rest ih =>
      have later (chosen : Nat → Bool) : (withReturns chosen rest).all isBlank = rest.all isBlank :=
        ih chosen
      by_cases feed : c = '\n'
      · rw [withReturns, if_pos feed]
        split <;> simp [allBlank, feed, later, blank]
      · simp [withReturns, feed, allBlank, later]

end FlowAudit.Source

namespace FlowAudit

open FlowAudit.Text FlowAudit.Source

/-- **Line endings do not matter.** A source without carriage returns is masked alike, whichever of its
line feeds get one; so it has the same issues at every level, as many lines, and the same scores. -/
theorem line_endings_immaterial {source : List Char} (plain : '\r' ∉ source)
    (chosen : Nat → Bool) :
    let other := withReturns chosen source
    maskSource other = maskSource source ∧ lineCount other = lineCount source ∧
      (∀ level, detect level other = detect level source) ∧
      ∀ (ν : Type) [Scalar ν], (complexity other : ν) = complexity source ∧
        ∀ level, (quality (detect level other) (lineCount other) : ν) =
          quality (detect level source) (lineCount source) := by
  intro other
  have lines : maskSource other = maskSource source := by
    rw [maskSource, rawLines_withReturns plain]
    rfl
  have count : lineCount other = lineCount source := lineCount_withReturns chosen source
  have issues (level : Level) : detect level other = detect level source := by
    rw [detect, allBlank_withReturns, lines]
    rfl
  refine ⟨lines, count, issues, fun ν _ => ⟨?_, fun level => ?_⟩⟩
  · rw [complexity, ComplexityCounts.ofSource, lines]
    rfl
  · rw [issues, count]

/-- A source whose lines end in a template, in an interpolation, in a comment, in a string that is left
open, and in a run of blank lines. -/
def raggedSource : List Char :=
  "let s = `a\n  b$\x7b c\n\x7d`;\n/* d\n\n\n*/ f('foo\n);\nreturn;\n".toList

/-- Every second line of the ragged source gets a carriage return. -/
theorem line_endings_immaterial_ragged :
    '\r' ∉ raggedSource ∧ (withReturns (fun i => i % 2 == 0) raggedSource).count '\r' = 5 ∧
      allBlank raggedSource = false ∧
      detect .strict (withReturns (fun i => i % 2 == 0) raggedSource) =
        detect .strict raggedSource :=
  have plain : '\r' ∉ raggedSource := by decide +kernel
  ⟨plain, by decide +kernel, by decide +kernel, (line_endings_immaterial plain _).2.2.1 .strict⟩

end FlowAudit
