import FlowAudit.Proofs.Source.Position

/-!
# FlowAudit.Proofs.Source.Depth

**Brace depth across lines.** The depth of a line is what the masking machine has counted by its
start; `depthAfter` counts again, from the masked code. The machine counts the braces inside the
interpolations of templates apart, one number for each interpolation, while the code shows them all.
So the two agree on the *sum* of all counts (`Scan.Counted`, which every step keeps), and the depth of
the next line is what the code of a line leads to once the braces inside interpolations are added on
both sides (`depth_add_inside`). The depth alone is carried on exactly when no brace is left open
inside an interpolation at the end of the line.
-/

namespace FlowAudit.Source

open FlowAudit.Text

/-! ### Counting from the code -/

/-- What one more character of code makes of a depth. -/
theorem depthAfter_append_singleton (depth : Nat) (code : List Char) (c : Char) :
    depthAfter depth (code ++ [c]) =
      if c = '{' then depthAfter depth code + 1
      else if c = '}' then depthAfter depth code - 1
      else depthAfter depth code := by
  rw [depthAfter, List.foldl_append]
  rfl

namespace Carry

/-- The braces open inside interpolations. -/
def inside (carry : Carry) : Nat :=
  carry.interpolations.foldr (· + ·) 0

/-- All open braces, inside interpolations and outside. -/
def braces (carry : Carry) : Nat :=
  carry.depth + carry.inside

end Carry

namespace Mode

/-- Not in a string that a brace has opened. No string is opened by one, but the type of modes does
not say so. -/
def Proper (mode : Mode) : Prop :=
  mode ≠ .quoted '{' ∧ mode ≠ .quoted '}'

theorem proper_code : Proper .code := ⟨nofun, nofun⟩

theorem proper_blockComment : Proper .blockComment := ⟨nofun, nofun⟩

theorem proper_template : Proper .template := ⟨nofun, nofun⟩

theorem proper_quoted {quote : Char} : Proper (.quoted quote) ↔ quote ≠ '{' ∧ quote ≠ '}' := by
  simp [Proper]

end Mode

namespace Scan

/-- The machine has counted the braces that the code of the line so far leads to, from the count
`start` at which the line began. -/
structure Counted (start : Nat) (s : Scan) : Prop where
  braces : depthAfter start s.found.code.reverse = s.carry.braces
  mode : s.carry.mode.Proper

namespace Counted

variable {start : Nat} {s : Scan}

/-! ### What a state is changed by

Comment text, literals and skipped characters do not count, so those changes keep the two fields as
they are; a change of mode has the new mode to show. -/

theorem skipping (h : s.Counted start) (count : Nat) : (s.skipping count).Counted start :=
  ⟨h.braces, h.mode⟩

theorem pushComment (h : s.Counted start) (c : Char) : (s.pushComment c).Counted start :=
  ⟨h.braces, h.mode⟩

theorem pushLiteral (h : s.Counted start) (c : Char) : (s.pushLiteral c).Counted start :=
  ⟨h.braces, h.mode⟩

theorem closeLiteral (h : s.Counted start) : s.closeLiteral.Counted start :=
  ⟨h.braces, h.mode⟩

theorem enter (h : s.Counted start) {mode : Mode} (proper : mode.Proper) :
    (s.enter mode).Counted start :=
  ⟨h.braces, proper⟩

theorem enterCode (h : s.Counted start) : (s.enter .code).Counted start :=
  h.enter Mode.proper_code

/-- Code that is no brace does not count. -/
theorem pushCode (h : s.Counted start) {c : Char} (left : c ≠ '{') (right : c ≠ '}') :
    (s.pushCode c).Counted start where
  braces := by
    show depthAfter start (c :: s.found.code).reverse = s.carry.braces
    rw [List.reverse_cons, depthAfter_append_singleton, if_neg left, if_neg right, h.braces]
  mode := h.mode

/-- An opening brace is counted once, inside an interpolation or outside. -/
theorem openBrace (h : s.Counted start) : s.openBrace.Counted start := by
  have shown : depthAfter start ('{' :: s.found.code).reverse =
      s.carry.depth + s.carry.interpolations.foldr (· + ·) 0 + 1 := by
    rw [List.reverse_cons, depthAfter_append_singleton, if_pos rfl, h.braces]
    rfl
  unfold Scan.openBrace
  cases open_ : s.carry.interpolations with
  | nil =>
      rw [open_] at shown
      refine ⟨shown.trans ?_, h.mode⟩
      simp [Scan.pushCode, Carry.braces, Carry.inside, open_]
  | cons inner outer =>
      rw [open_] at shown
      refine ⟨shown.trans ?_, h.mode⟩
      simp only [Scan.pushCode, Carry.braces, Carry.inside, List.foldr_cons]
      omega

/-- A closing brace is counted once too, unless it matches a `${`: then it is no brace in the code. -/
theorem closeBrace (h : s.Counted start) : s.closeBrace.Counted start := by
  have shown : depthAfter start ('}' :: s.found.code).reverse =
      s.carry.depth + s.carry.interpolations.foldr (· + ·) 0 - 1 := by
    rw [List.reverse_cons, depthAfter_append_singleton, if_neg (by decide), if_pos rfl, h.braces]
    rfl
  unfold Scan.closeBrace
  split
  · rename_i outer open_
    -- The interpolation that ends has no brace open inside, so the sum of the others is the same.
    have same : ({ s.carry with mode := .template, interpolations := outer } : Carry).braces =
        s.carry.braces := by
      simp [Carry.braces, Carry.inside, open_]
    have kept : Counted start
        { s with carry := { s.carry with mode := .template, interpolations := outer } } :=
      ⟨h.braces.trans same.symm, Mode.proper_template⟩
    exact kept.pushCode (by decide) (by decide)
  · rename_i inner outer open_
    rw [open_] at shown
    refine ⟨shown.trans ?_, h.mode⟩
    simp only [Scan.pushCode, Carry.braces, Carry.inside, List.foldr_cons]
    omega
  · rename_i open_
    rw [open_] at shown
    refine ⟨shown.trans ?_, h.mode⟩
    simp [Scan.pushCode, Carry.braces, Carry.inside, open_]

/-! ### Steps -/

theorem escapeStep (h : s.Counted start) (rest : List Char) : (s.escapeStep rest).Counted start := by
  cases rest with
  | nil => exact h
  | cons escaped more => exact (h.pushLiteral escaped).skipping 1

theorem codeStep (h : s.Counted start) (c : Char) (rest : List Char) :
    (s.codeStep c rest).Counted start := by
  unfold Scan.codeStep
  by_cases slash : c = '/'
  · rw [if_pos slash]
    split
    · exact ⟨h.braces, h.mode⟩
    · exact (h.enter Mode.proper_blockComment).skipping 1
    · split
      · -- A regular expression leaves three characters of code, whatever stands in it.
        have shown := ((h.pushCode (c := '/') (by decide) (by decide)).pushCode (c := '.')
          (by decide) (by decide)).pushCode (c := '/') (by decide) (by decide)
        exact shown.skipping _
      · exact h.pushCode (by rw [slash]; decide) (by rw [slash]; decide)
  · rw [if_neg slash]
    by_cases quote : c = '\'' ∨ c = '"'
    · have left : c ≠ '{' := by rcases quote with rfl | rfl <;> decide
      have right : c ≠ '}' := by rcases quote with rfl | rfl <;> decide
      rw [if_pos (by simpa using quote)]
      exact (h.enter (Mode.proper_quoted.mpr ⟨left, right⟩)).pushCode left right
    · rw [if_neg (by simpa using quote)]
      split
      · rename_i tick
        exact (h.enter Mode.proper_template).pushCode (by rw [tick]; decide) (by rw [tick]; decide)
      · split
        · exact h.openBrace
        · split
          · exact h.closeBrace
          · exact h.pushCode ‹_› ‹_›

theorem commentStep (h : s.Counted start) (c : Char) (rest : List Char) :
    (s.commentStep c rest).Counted start := by
  unfold Scan.commentStep
  split
  · exact (h.enterCode.pushCode (by decide) (by decide)).skipping 1
  · exact h.pushComment c

theorem quotedStep (h : s.Counted start) {quote : Char} (mode : s.carry.mode = .quoted quote)
    (c : Char) (rest : List Char) : (s.quotedStep quote c rest).Counted start := by
  have proper := h.mode
  rw [mode] at proper
  obtain ⟨left, right⟩ := Mode.proper_quoted.mp proper
  unfold Scan.quotedStep
  split
  · exact h.escapeStep rest
  · split
    · rename_i closes
      rw [← closes] at left right
      exact (h.enterCode.pushCode left right).closeLiteral
    · exact h.pushLiteral c

theorem templateStep (h : s.Counted start) (c : Char) (rest : List Char) :
    (s.templateStep c rest).Counted start := by
  unfold Scan.templateStep
  split
  · exact h.escapeStep rest
  · split
    · rename_i tick
      exact (h.enterCode.pushCode (by rw [tick]; decide) (by rw [tick]; decide)).closeLiteral
    · split
      · -- A new interpolation begins without a brace open inside it.
        have same : ({ s.carry with
            mode := .code, interpolations := 0 :: s.carry.interpolations } : Carry).braces =
            s.carry.braces := by
          simp [Carry.braces, Carry.inside]
        have kept : Counted start { s with carry := { s.carry with
            mode := .code, interpolations := 0 :: s.carry.interpolations } } :=
          ⟨h.braces.trans same.symm, Mode.proper_code⟩
        exact (kept.pushCode (by decide) (by decide)).skipping 1
      · exact h.pushLiteral c

/-- **Every step keeps the count.** -/
theorem step (h : s.Counted start) (c : Char) (rest : List Char) :
    (s.step c rest).Counted start := by
  unfold Scan.step
  split
  · exact ⟨h.braces, h.mode⟩
  · split
    · exact h.codeStep c rest
    · exact h.commentStep c rest
    · exact h.quotedStep ‹_› c rest
    · exact h.templateStep c rest

/-- A whole line keeps the count. -/
theorem run (h : s.Counted start) (text : List Char) : (s.run text).Counted start := by
  induction text generalizing s with
  | nil => exact h
  | cons c rest ih => exact ih (h.step c rest)

theorem endLine (h : s.Counted start) : s.endLine.Counted start := by
  unfold Scan.endLine
  split
  · exact h
  · exact h.enterCode.closeLiteral
  · exact h.pushLiteral '\n'
  · exact h.pushComment '\n'

end Counted

end Scan

/-! ### Lines -/

/-- The code of a line leads from the braces open at its start to those open at its end. -/
theorem maskLine_braces {carry : Carry} (proper : carry.mode.Proper) (number : Nat)
    (raw : List Char) :
    depthAfter carry.braces (maskLine carry number raw).1.code =
        (maskLine carry number raw).2.braces ∧
      (maskLine carry number raw).2.mode.Proper := by
  have begun : Scan.Counted carry.braces { carry } := ⟨rfl, proper⟩
  have ended := (begun.run raw).endLine
  exact ⟨ended.braces, ended.mode⟩

theorem carryAfter_proper {carry : Carry} (proper : carry.mode.Proper) (raws : List (List Char)) :
    (carryAfter carry raws).mode.Proper := by
  induction raws generalizing carry with
  | nil => exact proper
  | cons raw rest ih => exact ih (maskLine_braces proper 0 raw).2

theorem carryAfter_append (carry : Carry) (first more : List (List Char)) :
    carryAfter carry (first ++ more) = carryAfter (carryAfter carry first) more := by
  induction first generalizing carry with
  | nil => rfl
  | cons raw rest ih => exact ih _

/-- A line is masked from what the lines before it leave. -/
theorem getElem?_maskLines (carry : Carry) (number : Nat) (raws : List (List Char))
    (index : Nat) :
    (maskLines carry number raws)[index]? =
      raws[index]?.map fun raw =>
        (maskLine (carryAfter carry (raws.take index)) (number + index) raw).1 := by
  induction raws generalizing carry number index with
  | nil => rfl
  | cons raw rest ih =>
      cases index with
      | zero => rfl
      | succ index =>
          rw [maskLines_cons, List.getElem?_cons_succ, ih, List.getElem?_cons_succ,
            Nat.add_assoc, Nat.add_comm 1 index]
          rfl

/-- What the machine carries to a line of a source, counted from zero. -/
def carryAt (source : List Char) (index : Nat) : Carry :=
  carryAfter {} ((rawLines source).take index)

/-- A line of masked source, with what it is masked from and what it leaves to the next one. -/
theorem exists_maskLine {source : List Char} {index : Nat} {line : Line}
    (found : (maskSource source)[index]? = some line) :
    ∃ raw, line = (maskLine (carryAt source index) (1 + index) raw).1 ∧
      carryAt source (index + 1) = (maskLine (carryAt source index) (1 + index) raw).2 := by
  rw [maskSource, getElem?_maskLines] at found
  obtain ⟨raw, hraw, rfl⟩ := Option.map_eq_some_iff.mp found
  refine ⟨raw, rfl, ?_⟩
  rw [carryAt, List.take_add_one, hraw, carryAfter_append]
  rfl

theorem depth_eq_carryAt {source : List Char} {index : Nat} {line : Line}
    (found : (maskSource source)[index]? = some line) :
    line.depth = (carryAt source index).depth := by
  obtain ⟨raw, rfl, -⟩ := exists_maskLine found
  rfl

/-- From the start of a line to the start of the next one, the code of the line accounts for all open
braces. -/
theorem depth_add_inside {source : List Char} {index : Nat} {first second : Line}
    (hfirst : (maskSource source)[index]? = some first)
    (hsecond : (maskSource source)[index + 1]? = some second) :
    second.depth + (carryAt source (index + 1)).inside =
      depthAfter (first.depth + (carryAt source index).inside) first.code := by
  have proper : (carryAt source index).mode.Proper := carryAfter_proper Mode.proper_code _
  rw [depth_eq_carryAt hsecond, depth_eq_carryAt hfirst]
  obtain ⟨raw, rfl, left⟩ := exists_maskLine hfirst
  rw [left]
  exact (maskLine_braces proper (1 + index) raw).1.symm

/-- **Which depths follow the code.** The braces open inside interpolations added, the depth of every
line is what the code of the line before it leads to. The depths alone are so for all lines of a
source if and only if no line begins with a brace open inside an interpolation. -/
theorem depth_follows_code (source : List Char) :
    (∀ index first second, (maskSource source)[index]? = some first →
      (maskSource source)[index + 1]? = some second →
      second.depth + (carryAt source (index + 1)).inside =
        depthAfter (first.depth + (carryAt source index).inside) first.code) ∧
    ((∀ index first second, (maskSource source)[index]? = some first →
      (maskSource source)[index + 1]? = some second → second.depth = first.endDepth) ↔
      ∀ index < (maskSource source).length, (carryAt source index).inside = 0) := by
  refine ⟨fun _ _ _ => depth_add_inside, fun continuous index => ?_,
    fun none_inside index first second hfirst hsecond => ?_⟩
  · -- The first line begins with no brace open, and each line hands that on to the next.
    induction index with
    | zero =>
        intro _
        rfl
    | succ index ih =>
        intro within
        obtain ⟨first, hfirst⟩ : ∃ first, (maskSource source)[index]? = some first :=
          ⟨_, List.getElem?_eq_getElem (Nat.lt_of_succ_lt within)⟩
        obtain ⟨second, hsecond⟩ : ∃ second, (maskSource source)[index + 1]? = some second :=
          ⟨_, List.getElem?_eq_getElem within⟩
        have accounted := depth_add_inside hfirst hsecond
        rw [ih (Nat.lt_of_succ_lt within), continuous index first second hfirst hsecond]
          at accounted
        have balance : first.endDepth + (carryAt source (index + 1)).inside = first.endDepth :=
          accounted
        omega
  · have accounted := depth_add_inside hfirst hsecond
    have before : (carryAt source index).inside = 0 :=
      none_inside index (List.getElem?_eq_some_iff.mp hfirst).1
    have after : (carryAt source (index + 1)).inside = 0 :=
      none_inside (index + 1) (List.getElem?_eq_some_iff.mp hsecond).1
    rw [before, after, Nat.add_zero, Nat.add_zero] at accounted
    exact accounted

/-- The depth of a line is not always what the code of the line before it leads to: here the first line
ends inside a function that is written inside an interpolation. -/
theorem depth_drifts_inside_interpolation :
    ∃ first second,
      (maskSource "const s = `$\x7bxs.map(x => \x7b\n  return;\n\x7d)\x7d`;".toList)[0]? =
        some first ∧
      (maskSource "const s = `$\x7bxs.map(x => \x7b\n  return;\n\x7d)\x7d`;".toList)[1]? =
        some second ∧
      first.endDepth = 1 ∧ second.depth = 0 :=
  ⟨_, _, rfl, rfl, rfl, rfl⟩

end FlowAudit.Source
