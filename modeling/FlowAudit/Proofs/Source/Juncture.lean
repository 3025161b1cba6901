import FlowAudit.Proofs.Source.Position

/-!
# FlowAudit.Proofs.Source.Juncture

**Sources put one after the other.** Where a line ends in code, outside all braces and interpolations,
the next line is masked as if a source began with it: masking the whole is masking the two parts
(`maskSource_join`).

What the machine carries to the next line is more than mode, braces and interpolations: literals of all
kinds share one buffer, and a text left in it would show in the next literal that ends. That there is
none is the invariant `Carry.Settled`. It has to speak of comments too, since a comment leads back into
code without a word about the buffer.
-/

namespace FlowAudit.Source

/-! ### No literal is left over -/

/-- In code and in comments, outside all interpolations, no literal is being read. -/
def Carry.Settled (carry : Carry) : Prop :=
  carry.mode = .code ∨ carry.mode = .blockComment → carry.interpolations = [] → carry.literal = []

namespace Carry.Settled

variable {carry : Carry}

theorem start : Settled {} := fun _ _ => rfl

/-- In a literal anything may be in the buffer. -/
theorem of_inLiteral (code : carry.mode ≠ .code) (comment : carry.mode ≠ .blockComment) :
    carry.Settled := by
  rintro (mode | mode)
  · exact absurd mode code
  · exact absurd mode comment

/-- Inside an interpolation the text of the template before it is in the buffer. -/
theorem of_interpolation (open_ : carry.interpolations ≠ []) : carry.Settled :=
  fun _ none_open => absurd none_open open_

/-- After a literal the buffer is empty. -/
theorem of_closed (closed : carry.literal = []) : carry.Settled := fun _ _ => closed

/-- From code or a comment into code or a comment. -/
theorem enter (h : carry.Settled) (here : carry.mode = .code ∨ carry.mode = .blockComment)
    (mode : Mode) : Settled { carry with mode } :=
  fun _ none_open => h here none_open

end Carry.Settled

namespace Scan

variable {s : Scan}

theorem settled_openBrace (h : s.carry.Settled) : s.openBrace.carry.Settled := by
  unfold openBrace
  split
  · exact .of_interpolation (List.cons_ne_nil _ _)
  · exact h

theorem settled_closeBrace (h : s.carry.Settled) : s.closeBrace.carry.Settled := by
  unfold closeBrace
  split
  · exact .of_inLiteral nofun nofun
  · exact .of_interpolation (List.cons_ne_nil _ _)
  · exact h

theorem settled_codeStep (h : s.carry.Settled) (mode : s.carry.mode = .code) (c : Char)
    (rest : List Char) : (s.codeStep c rest).carry.Settled := by
  unfold codeStep
  split
  · split
    · exact h
    · exact h.enter (Or.inl mode) .blockComment
    · split
      · exact h
      · exact h
  · split
    · exact .of_inLiteral nofun nofun
    · split
      · exact .of_inLiteral nofun nofun
      · split
        · exact settled_openBrace h
        · split
          · exact settled_closeBrace h
          · exact h

theorem settled_commentStep (h : s.carry.Settled) (mode : s.carry.mode = .blockComment) (c : Char)
    (rest : List Char) : (s.commentStep c rest).carry.Settled := by
  unfold commentStep
  split
  · exact h.enter (Or.inr mode) .code
  · exact h

theorem mode_escapeStep (s : Scan) (rest : List Char) :
    (s.escapeStep rest).carry.mode = s.carry.mode := by
  cases rest <;> rfl

theorem settled_quotedStep {quote : Char} (mode : s.carry.mode = .quoted quote) (c : Char)
    (rest : List Char) : (s.quotedStep quote c rest).carry.Settled := by
  unfold quotedStep
  split
  · have kept := (s.mode_escapeStep rest).trans mode
    exact .of_inLiteral (by rw [kept]; nofun) (by rw [kept]; nofun)
  · split
    · exact .of_closed rfl
    · have kept : (s.pushLiteral c).carry.mode = .quoted quote := mode
      exact .of_inLiteral (by rw [kept]; nofun) (by rw [kept]; nofun)

theorem settled_templateStep (mode : s.carry.mode = .template) (c : Char) (rest : List Char) :
    (s.templateStep c rest).carry.Settled := by
  unfold templateStep
  split
  · have kept := (s.mode_escapeStep rest).trans mode
    exact .of_inLiteral (by rw [kept]; nofun) (by rw [kept]; nofun)
  · split
    · exact .of_closed rfl
    · split
      · exact .of_interpolation (List.cons_ne_nil _ _)
      · have kept : (s.pushLiteral c).carry.mode = .template := mode
        exact .of_inLiteral (by rw [kept]; nofun) (by rw [kept]; nofun)

/-- **Every step leaves no literal over.** -/
theorem settled_step (h : s.carry.Settled) (c : Char) (rest : List Char) :
    (s.step c rest).carry.Settled := by
  unfold step
  split
  · exact h
  · split
    · exact settled_codeStep h ‹_› c rest
    · exact settled_commentStep h ‹_› c rest
    · exact settled_quotedStep ‹_› c rest
    · exact settled_templateStep ‹_› c rest

theorem settled_run (h : s.carry.Settled) (text : List Char) : (s.run text).carry.Settled := by
  induction text generalizing s with
  | nil => exact h
  | cons c rest ih => exact ih (settled_step h c rest)

theorem settled_endLine (h : s.carry.Settled) : s.endLine.carry.Settled := by
  unfold endLine
  split
  · exact h
  · exact .of_closed rfl
  · have kept : (s.pushLiteral '\n').carry.mode = .template := ‹_›
    exact .of_inLiteral (by rw [kept]; nofun) (by rw [kept]; nofun)
  · exact h

end Scan

/-- Lines leave no literal over. -/
theorem settled_carryAfter {carry : Carry} (h : carry.Settled) (raws : List (List Char)) :
    (carryAfter carry raws).Settled := by
  induction raws generalizing carry with
  | nil => exact h
  | cons raw rest ih => exact ih (Scan.settled_endLine (Scan.settled_run h raw))

/-! ### Lines of a source that goes on -/

theorem splitAtNewlines_append_newline (first second : List Char) :
    splitAtNewlines (first ++ '\n' :: second) = splitAtNewlines first ++ splitAtNewlines second := by
  induction first with
  | nil => rfl
  | cons c more ih =>
      obtain ⟨piece, pieces, hmore⟩ := exists_splitAtNewlines more
      rw [List.cons_append, splitAtNewlines, splitAtNewlines, ih, hmore]
      by_cases hc : c = '\n'
      · rw [if_pos hc, if_pos hc]
        rfl
      · rw [if_neg hc, if_neg hc]
        rfl

/-- A line feed parts the lines before it from those after it, also when nothing comes after it. -/
theorem rawLines_append_newline (first second : List Char) :
    rawLines (first ++ '\n' :: second) = rawLines (first ++ ['\n']) ++ rawLines second := by
  have filled : ∀ more, (first ++ '\n' :: more).isEmpty = false := by
    intro more
    cases first <;> rfl
  cases second with
  | nil => exact (List.append_nil _).symm
  | cons c more =>
      have ended : dropFinal '\n' (first ++ ['\n']) = first := by
        rw [dropFinal_append '\n' first (List.cons_ne_nil _ _)]
        exact List.append_nil first
      have whole : dropFinal '\n' (first ++ '\n' :: c :: more) =
          first ++ '\n' :: dropFinal '\n' (c :: more) := by
        rw [dropFinal_append '\n' first (List.cons_ne_nil _ _), dropFinal_cons_cons]
      rw [rawLines, filled, if_neg Bool.false_ne_true, whole, splitAtNewlines_append_newline,
        List.map_append, rawLines, filled, if_neg Bool.false_ne_true, ended]
      rfl

/-- A line some lines further on. -/
def Line.later (count : Nat) (line : Line) : Line :=
  { line with number := line.number + count }

section Later

variable (count : Nat) (line : Line)

@[simp]
theorem Line.later_number : (line.later count).number = line.number + count := rfl

@[simp]
theorem Line.later_code : (line.later count).code = line.code := rfl

@[simp]
theorem Line.later_comment : (line.later count).comment = line.comment := rfl

@[simp]
theorem Line.later_literals : (line.later count).literals = line.literals := rfl

end Later

/-- Lines are masked alike wherever they stand; only their numbers tell. -/
theorem maskLines_later (carry : Carry) (number count : Nat) (raws : List (List Char)) :
    maskLines carry (number + count) raws = (maskLines carry number raws).map (Line.later count) := by
  induction raws generalizing carry number with
  | nil => rfl
  | cons raw rest ih =>
      rw [maskLines_cons, maskLines_cons, List.map_cons, Nat.add_right_comm, ih]
      rfl

/-- **Sources put one after the other.** When the first one leaves its last line in code, outside all
interpolations and braces, it leaves nothing at all to the next line; so the lines of the whole are those
of the first source, ended by a line feed, and after them those of the second one. -/
theorem maskSource_join {first : List Char}
    (mode : (carryAfter {} (rawLines (first ++ ['\n']))).mode = .code)
    (interpolations : (carryAfter {} (rawLines (first ++ ['\n']))).interpolations = [])
    (depth : (carryAfter {} (rawLines (first ++ ['\n']))).depth = 0) (second : List Char) :
    carryAfter {} (rawLines (first ++ ['\n'])) = {} ∧
      maskSource (first ++ '\n' :: second) =
        maskSource (first ++ ['\n']) ++
          (maskSource second).map (Line.later (maskSource (first ++ ['\n'])).length) := by
  have literal : (carryAfter {} (rawLines (first ++ ['\n']))).literal = [] :=
    settled_carryAfter .start _ (Or.inl mode) interpolations
  have nothing : carryAfter {} (rawLines (first ++ ['\n'])) = {} := by
    cases left : carryAfter {} (rawLines (first ++ ['\n'])) with
    | mk _ _ _ _ =>
        rw [left] at mode interpolations depth literal
        cases mode
        cases interpolations
        cases depth
        cases literal
        rfl
  refine ⟨nothing, ?_⟩
  rw [maskSource, rawLines_append_newline, maskLines_append, nothing, maskLines_later, maskSource,
    length_maskLines]
  rfl

end FlowAudit.Source
