import FlowAudit.Source.Mask

/-!
# FlowAudit.Proofs.Source.Position

**The masking machine at a position of a source.** A position cuts a source into what is `before` it
and the `rest`. `scanAt` is the state in which the machine comes to it, and masking the whole is going
on from there: lines are cut at a position by `rawLines_append`, masked lines by `maskLines_append`,
and the characters of one line by `Scan.run_append`.

The machine looks ahead, so `scanAt` depends on the rest too. How little it does is the second part:
when nothing of the rest has been taken in yet (`skip = 0`), only its first character matters
(`Scan.runBefore_eq_of_head`). A slash is the one character that looks further, and what it finds
beyond the position it also skips.
-/

namespace FlowAudit.Source

/-! ### Within a line -/

namespace Scan

/-- The state after the characters `before` of a line on which `rest` follows them. -/
def runBefore (s : Scan) (rest : List Char) : List Char → Scan
  | [] => s
  | c :: more => (s.step c (more ++ rest)).runBefore rest more

/-- Reading a line is reading a beginning of it and going on from there. -/
theorem run_append (s : Scan) (before rest : List Char) :
    s.run (before ++ rest) = (s.runBefore rest before).run rest := by
  induction before generalizing s with
  | nil => rfl
  | cons c more ih => exact ih (s.step c (more ++ rest))

/-- A machine that is leaving out characters does nothing but count them. -/
theorem step_of_skip {s : Scan} {count : Nat} (h : s.skip = count + 1) (c : Char)
    (rest : List Char) : s.step c rest = { s with skip := count } := by
  unfold step
  rw [h]

/-- Characters that are all to be left out change nothing but the count of such. -/
theorem runBefore_of_skip (rest : List Char) {s : Scan} {before : List Char}
    (h : before.length ≤ s.skip) :
    s.runBefore rest before = { s with skip := s.skip - before.length } := by
  induction before generalizing s with
  | nil => rfl
  | cons c more ih =>
      rw [List.length_cons] at h
      obtain ⟨count, hcount⟩ : ∃ count, s.skip = count + 1 := ⟨s.skip - 1, by omega⟩
      rw [runBefore, step_of_skip hcount, ih (by simp only; omega)]
      simp only [List.length_cons, Scan.mk.injEq, true_and]
      omega

/-- The same at the end of a line. -/
theorem run_of_skip {s : Scan} {text : List Char} (h : text.length ≤ s.skip) :
    s.run text = { s with skip := s.skip - text.length } := by
  have whole := run_append s text []
  rw [List.append_nil] at whole
  rw [whole, run, runBefore_of_skip [] h]

end Scan

/-! ### Across lines -/

/-- What lines leave to the line after them. -/
def carryAfter (carry : Carry) : List (List Char) → Carry
  | [] => carry
  | raw :: rest => carryAfter (Scan.run { carry } raw).endLine.carry rest

theorem maskLines_cons (carry : Carry) (number : Nat) (raw : List Char)
    (rest : List (List Char)) :
    maskLines carry number (raw :: rest) =
      (maskLine carry number raw).1 ::
        maskLines (maskLine carry number raw).2 (number + 1) rest := rfl

/-- Masking lines is masking the first ones and going on with what they leave. -/
theorem maskLines_append (carry : Carry) (number : Nat) (first more : List (List Char)) :
    maskLines carry number (first ++ more) =
      maskLines carry number first ++
        maskLines (carryAfter carry first) (number + first.length) more := by
  induction first generalizing carry number with
  | nil => rfl
  | cons raw rest ih =>
      have next := ih (Scan.run { carry } raw).endLine.carry (number + 1)
      rw [show number + 1 + rest.length = number + (raw :: rest).length by
        rw [List.length_cons]; omega] at next
      exact congrArg (List.cons (maskLine carry number raw).1) next

theorem length_maskLines (carry : Carry) (number : Nat) (raws : List (List Char)) :
    (maskLines carry number raws).length = raws.length := by
  induction raws generalizing carry number with
  | nil => rfl
  | cons raw rest ih => rw [maskLines_cons, List.length_cons, ih, List.length_cons]

/-- Lines are numbered one after the other. -/
theorem maskLines_numbers (carry : Carry) (number : Nat) (raws : List (List Char)) :
    (maskLines carry number raws).map Line.number = List.range' number raws.length := by
  induction raws generalizing carry number with
  | nil => rfl
  | cons raw rest ih =>
      rw [maskLines_cons, List.map_cons, ih]
      rfl

/-! ### Where a text cuts a source -/

/-- The lines that end within a text, without their line endings. -/
def linesBefore (text : List Char) : List (List Char) :=
  (splitAtNewlines text).dropLast.map (dropFinal '\r')

/-- The part of its last line that a text holds. -/
def lineStart (text : List Char) : List Char :=
  (splitAtNewlines text).getLastD []

/-- The part of a line with which the rest of a source begins. -/
def lineEnd (rest : List Char) : List Char :=
  dropFinal '\r' ((splitAtNewlines (dropFinal '\n' rest)).headD [])

/-- The lines that begin within the rest of a source. -/
def linesAfter (rest : List Char) : List (List Char) :=
  (splitAtNewlines (dropFinal '\n' rest)).tail.map (dropFinal '\r')

/-- The state in which the machine comes to the rest of a source. -/
def scanAt (before rest : List Char) : Scan :=
  Scan.runBefore { carry := carryAfter {} (linesBefore before) } (lineEnd rest) (lineStart before)

theorem dropFinal_append (c : Char) (before : List Char) {text : List Char} (h : text ≠ []) :
    dropFinal c (before ++ text) = before ++ dropFinal c text := by
  have last : (before ++ text).getLast? = text.getLast? := by
    rw [List.getLast?_append, List.getLast?_eq_some_getLast h]
    rfl
  unfold dropFinal
  rw [last]
  split
  · exact List.dropLast_append_of_ne_nil h
  · rfl

theorem dropFinal_of_not_mem {c : Char} {text : List Char} (h : c ∉ text) :
    dropFinal c text = text := by
  unfold dropFinal
  rw [if_neg]
  exact fun last => h (List.mem_of_getLast? last)

theorem dropFinal_append_of_not_mem {c : Char} {before : List Char} (h : c ∉ before)
    (text : List Char) : dropFinal c (before ++ text) = before ++ dropFinal c text := by
  cases text with
  | nil => rw [List.append_nil, dropFinal_of_not_mem h]; exact (List.append_nil before).symm
  | cons d more => exact dropFinal_append c before (List.cons_ne_nil d more)

theorem dropFinal_cons_cons (c d e : Char) (text : List Char) :
    dropFinal c (d :: e :: text) = d :: dropFinal c (e :: text) :=
  dropFinal_append c [d] (List.cons_ne_nil e text)

theorem dropFinal_cons_of_ne {c d : Char} (h : d ≠ c) (text : List Char) :
    dropFinal c (d :: text) = d :: dropFinal c text := by
  have plain : c ∉ [d] := by simpa using Ne.symm h
  exact dropFinal_append_of_not_mem plain text

/-- A text splits into at least one piece. -/
theorem exists_splitAtNewlines (text : List Char) :
    ∃ piece pieces, splitAtNewlines text = piece :: pieces := by
  cases text with
  | nil => exact ⟨[], [], rfl⟩
  | cons c rest =>
      rw [splitAtNewlines]
      split
      · exact ⟨_, _, rfl⟩
      · split <;> exact ⟨_, _, rfl⟩

/-- Text without a line feed goes in front of the first piece of what follows it. -/
theorem splitAtNewlines_append_of_not_mem {text : List Char} (h : '\n' ∉ text)
    {rest piece : List Char} {pieces : List (List Char)}
    (split_ : splitAtNewlines rest = piece :: pieces) :
    splitAtNewlines (text ++ rest) = (text ++ piece) :: pieces := by
  induction text with
  | nil => exact split_
  | cons c more ih =>
      obtain ⟨hc, hmore⟩ : '\n' ≠ c ∧ '\n' ∉ more := by
        rw [List.mem_cons, not_or] at h
        exact h
      rw [List.cons_append, splitAtNewlines, if_neg (Ne.symm hc), ih hmore]
      rfl

/-- The last piece of a text and the first piece of what follows it are one piece of the whole. -/
theorem splitAtNewlines_append (before : List Char) {rest piece : List Char}
    {pieces : List (List Char)} (split_ : splitAtNewlines rest = piece :: pieces) :
    splitAtNewlines (before ++ rest) =
      (splitAtNewlines before).dropLast ++ (lineStart before ++ piece) :: pieces := by
  induction before with
  | nil => exact split_
  | cons c more ih =>
      obtain ⟨first, others, hmore⟩ := exists_splitAtNewlines more
      rw [lineStart, hmore] at ih
      rw [List.cons_append]
      by_cases hc : c = '\n'
      · rw [splitAtNewlines, if_pos hc, ih, lineStart, splitAtNewlines, if_pos hc, hmore]
        rfl
      · rw [splitAtNewlines, if_neg hc, ih, lineStart, splitAtNewlines, if_neg hc, hmore]
        cases others with
        | nil => rfl
        | cons second others => rfl

/-- **A position cuts the lines of a source**: into those before it, the line it lies on, and those
after it. -/
theorem rawLines_append (before : List Char) {c : Char} (hc : c ≠ '\n') (rest : List Char) :
    rawLines (before ++ c :: rest) =
      linesBefore before ++ (lineStart before ++ lineEnd (c :: rest)) :: linesAfter (c :: rest) := by
  obtain ⟨piece, pieces, hrest⟩ := exists_splitAtNewlines (dropFinal '\n' (c :: rest))
  -- The rest does not begin with a line feed, so its first piece holds `c` at least.
  have nonempty : piece ≠ [] := by
    intro hpiece
    rw [hpiece] at hrest
    obtain ⟨first, others, hfirst⟩ := exists_splitAtNewlines (dropFinal '\n' rest)
    rw [dropFinal_cons_of_ne hc, splitAtNewlines, if_neg hc, hfirst] at hrest
    exact absurd (List.cons.inj hrest).1 (List.cons_ne_nil _ _)
  have filled : (before ++ c :: rest).isEmpty = false := by
    cases before <;> rfl
  rw [rawLines, filled, if_neg Bool.false_ne_true,
    dropFinal_append '\n' before (List.cons_ne_nil c rest), splitAtNewlines_append before hrest,
    List.map_append, List.map_cons, dropFinal_append '\r' _ nonempty, linesBefore, lineEnd,
    linesAfter, hrest]
  rfl

/-- **Masking a source comes by every position of it**: the lines before it are masked, and from what
they leave the line on which the rest begins. -/
theorem maskSource_append (before : List Char) {c : Char} (hc : c ≠ '\n') (rest : List Char) :
    maskSource (before ++ c :: rest) =
      maskLines {} 1 (linesBefore before) ++
        maskLines (carryAfter {} (linesBefore before)) (1 + (linesBefore before).length)
          ((lineStart before ++ lineEnd (c :: rest)) :: linesAfter (c :: rest)) := by
  rw [maskSource, rawLines_append before hc, maskLines_append]

/-- On that line the machine comes to the position in the state `scanAt` and goes on from there. -/
theorem run_lineStart_append (before rest : List Char) :
    Scan.run { carry := carryAfter {} (linesBefore before) } (lineStart before ++ lineEnd rest) =
      (scanAt before rest).run (lineEnd rest) :=
  Scan.run_append _ (lineStart before) (lineEnd rest)

/-- Text without a line feed stands on the line that it begins on. -/
theorem lineEnd_append {text : List Char} (h : '\n' ∉ text) (rest : List Char) :
    lineEnd (text ++ rest) =
      dropFinal '\r' (text ++ (splitAtNewlines (dropFinal '\n' rest)).headD []) := by
  obtain ⟨piece, pieces, hrest⟩ := exists_splitAtNewlines (dropFinal '\n' rest)
  rw [lineEnd, dropFinal_append_of_not_mem h, splitAtNewlines_append_of_not_mem h hrest, hrest]
  rfl

/-- Text without a line feed leaves the lines after it as they are. -/
theorem linesAfter_append {text : List Char} (h : '\n' ∉ text) (rest : List Char) :
    linesAfter (text ++ rest) = linesAfter rest := by
  obtain ⟨piece, pieces, hrest⟩ := exists_splitAtNewlines (dropFinal '\n' rest)
  rw [linesAfter, dropFinal_append_of_not_mem h, splitAtNewlines_append_of_not_mem h hrest,
    linesAfter, hrest]
  rfl

/-- A character that belongs to no line ending is the first one of its part of the line. -/
theorem exists_lineEnd_cons {c : Char} (hn : c ≠ '\n') (hr : c ≠ '\r') (rest : List Char) :
    ∃ more, lineEnd (c :: rest) = c :: more := by
  have plain : '\n' ∉ [c] := by simpa using Ne.symm hn
  have line := lineEnd_append plain rest
  rw [List.singleton_append, List.singleton_append, dropFinal_cons_of_ne hr] at line
  exact ⟨_, line⟩

/-! ### How far the machine looks ahead -/

/-- A slash that closes a regular expression within `before` does so whatever comes after. -/
theorem closingSlash?_append {inClass : Bool} {before rest : List Char} {position : Nat}
    (found : closingSlash? inClass (before ++ rest) = some position)
    (within : position < before.length) (rest' : List Char) :
    closingSlash? inClass (before ++ rest') = some position := by
  fun_induction closingSlash? inClass before generalizing position with
  | case1 => exact absurd within (Nat.not_lt_zero _)
  | case2 inClass =>
      -- An escaping backslash at the end takes the first character of the rest with it.
      cases rest with
      | nil => exact absurd found (by simp)
      | cons d more =>
          rw [List.singleton_append, closingSlash?_escape] at found
          obtain ⟨inner, -, rfl⟩ := Option.map_eq_some_iff.mp found
          exact absurd within (by simp)
  | case3 inClass d more ih =>
      rw [List.cons_append, List.cons_append, closingSlash?_escape] at found ⊢
      obtain ⟨inner, hinner, rfl⟩ := Option.map_eq_some_iff.mp found
      rw [ih hinner (by simpa using within)]
      rfl
  | case4 inClass more hesc ih =>
      rw [List.cons_append, closingSlash?_cons hesc, if_pos rfl] at found ⊢
      obtain ⟨inner, hinner, rfl⟩ := Option.map_eq_some_iff.mp found
      rw [ih hinner (by simpa using within)]
      rfl
  | case5 inClass more hesc hopen ih =>
      rw [List.cons_append, closingSlash?_cons hesc, if_neg hopen, if_pos rfl] at found ⊢
      obtain ⟨inner, hinner, rfl⟩ := Option.map_eq_some_iff.mp found
      rw [ih hinner (by simpa using within)]
      rfl
  | case6 inClass c more hesc hopen hclose hslash =>
      rw [List.cons_append, closingSlash?_cons hesc, if_neg hopen, if_neg hclose,
        if_pos hslash] at found ⊢
      exact found
  | case7 inClass c more hesc hopen hclose hslash ih =>
      rw [List.cons_append, closingSlash?_cons hesc, if_neg hopen, if_neg hclose,
        if_neg hslash] at found ⊢
      obtain ⟨inner, hinner, rfl⟩ := Option.map_eq_some_iff.mp found
      rw [ih hinner (by simpa using within)]
      rfl

/-- A regular expression that ends within `before` ends there whatever comes after. -/
theorem regexLength_append {before rest : List Char} (filled : rest ≠ [])
    (within : regexLength (before ++ rest) ≤ before.length) (rest' : List Char) :
    regexLength (before ++ rest') = regexLength (before ++ rest) := by
  have room : 0 < rest.length := List.length_pos_iff.mpr filled
  unfold regexLength at within ⊢
  cases found : closingSlash? false (before ++ rest) with
  | none =>
      rw [found] at within
      simp only [List.length_append] at within
      omega
  | some position =>
      rw [found] at within
      rw [closingSlash?_append found within rest']

namespace Scan

theorem escapeStep_eq_of_head (s : Scan) {rest rest' : List Char} (h : rest'.head? = rest.head?) :
    s.escapeStep rest' = s.escapeStep rest := by
  cases rest with
  | nil => rw [List.head?_eq_none_iff.mp h]
  | cons c more =>
      obtain ⟨more', rfl⟩ := List.head?_eq_some_iff.mp h
      rfl

/-- What a step makes of a character depends on the first character after it only, unless the step
skips past all of `more`. -/
theorem step_eq_or_skips (s : Scan) (d : Char) (more : List Char) (c : Char)
    (rest rest' : List Char) :
    s.step d (more ++ c :: rest') = s.step d (more ++ c :: rest) ∨
      more.length < (s.step d (more ++ c :: rest)).skip := by
  have heads : (more ++ c :: rest').head? = (more ++ c :: rest).head? := by
    cases more <;> rfl
  unfold step
  cases s.skip with
  | succ n => exact Or.inl rfl
  | zero =>
      cases s.carry.mode with
      | code =>
          by_cases hd : d = '/'
          · subst hd
            by_cases hline : (more ++ c :: rest).head? = some '/'
            · -- A line comment skips all that is left of the line.
              refine Or.inr ?_
              obtain ⟨far, hfar⟩ := List.head?_eq_some_iff.mp hline
              have longer := congrArg List.length hfar
              simp only [List.length_append, List.length_cons] at longer
              simp only [hfar, codeStep, if_true, skipping, List.length_cons]
              omega
            · by_cases hblock : (more ++ c :: rest).head? = some '*'
              · refine Or.inl ?_
                obtain ⟨far, hfar⟩ := List.head?_eq_some_iff.mp hblock
                obtain ⟨far', hfar'⟩ := List.head?_eq_some_iff.mp (heads.trans hblock)
                rw [hfar, hfar']
                rfl
              · dsimp only
                rw [codeStep_slash s hline hblock,
                  codeStep_slash s (heads ▸ hline) (heads ▸ hblock)]
                by_cases hlength : regexLength (more ++ c :: rest) ≤ more.length
                · rw [regexLength_append (List.cons_ne_nil c rest) hlength (c :: rest')]
                  exact Or.inl rfl
                · by_cases hopens : opensRegex s.found.code = true
                  · rw [if_pos hopens, if_pos hopens]
                    exact Or.inr (Nat.lt_of_not_le hlength)
                  · rw [if_neg hopens, if_neg hopens]
                    exact Or.inl rfl
          · refine Or.inl ?_
            simp only [codeStep, if_neg hd]
      | blockComment =>
          refine Or.inl ?_
          simp only [commentStep, heads]
      | quoted quote =>
          refine Or.inl ?_
          simp only [quotedStep, escapeStep_eq_of_head s heads]
      | template =>
          refine Or.inl ?_
          simp only [templateStep, escapeStep_eq_of_head s heads, heads]

/-- **Only the first character of the rest matters** for how the machine comes to it, provided the
machine has not taken in any of the rest. -/
theorem runBefore_eq_of_head {s : Scan} {before : List Char} {c : Char} {rest : List Char}
    (fresh : (s.runBefore (c :: rest) before).skip = 0) (rest' : List Char) :
    s.runBefore (c :: rest') before = s.runBefore (c :: rest) before := by
  induction before generalizing s with
  | nil => rfl
  | cons d more ih =>
      rw [runBefore] at fresh ⊢
      rcases step_eq_or_skips s d more c rest rest' with same | skips
      · rw [same, ih fresh]
        rfl
      · -- Skipping past all of `more` takes in `c` too, which `fresh` excludes.
        rw [runBefore_of_skip _ (Nat.le_of_lt skips)] at fresh
        exact absurd fresh (Nat.sub_ne_zero_of_lt skips)

end Scan

/-- The machine comes to a position in the same state whatever follows the character there, provided
that character ends no line and has not been taken in yet. -/
theorem scanAt_eq_of_head {before : List Char} {c : Char} (hn : c ≠ '\n') (hr : c ≠ '\r')
    {rest : List Char} (fresh : (scanAt before (c :: rest)).skip = 0) (rest' : List Char) :
    scanAt before (c :: rest') = scanAt before (c :: rest) := by
  obtain ⟨more, hmore⟩ := exists_lineEnd_cons hn hr rest
  obtain ⟨more', hmore'⟩ := exists_lineEnd_cons hn hr rest'
  unfold scanAt at fresh ⊢
  rw [hmore] at fresh ⊢
  rw [hmore', Scan.runBefore_eq_of_head fresh]

end FlowAudit.Source
