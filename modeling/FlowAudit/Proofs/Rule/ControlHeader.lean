import FlowAudit.Proofs.Rule.Identifier
import FlowAudit.Proofs.Rule.TopLevelReturn
import Mathlib.Algebra.BigOperators.Group.List.Basic
import Mathlib.Algebra.Ring.Int.Defs
import Mathlib.Data.List.TakeWhile

/-!
# FlowAudit.Proofs.Rule.ControlHeader

**A condition over several lines.** The condition of a control header may go on for some lines, and the
rule follows it with a count of the parentheses that are still open. Written on one line the same header is
read by other code, which looks for the keyword first. Both come to the same: after the lines of a
condition the state is that of their text alone (`HeaderState.ofText`), wherever it has been cut.

The first line brings this about (`HeaderParts.advance_eq`), and each further one keeps it up
(`advance_ofText`), because balances add up and the last visible character is that of the last line. What
follows the keyword and its parenthesis makes no difference to whether a line is a header
(`HeaderParts.append`), so the whole is one if the first line is.
-/

namespace FlowAudit.Rule

open FlowAudit.Text FlowAudit.Source

/-! ### The ends of a text -/

section Ends

variable {text before after : List Char} {c : Char}

theorem exists_of_visible (visible : allBlank text = false) : ∃ c ∈ text, isBlank c = false := by
  simpa [allBlank] using visible

theorem trimEnd_append_of_visible (before : List Char) (visible : allBlank text = false) :
    trimEnd (before ++ text) = before ++ trimEnd text := by
  have some_left : ¬ (text.reverse.dropWhile isBlank).isEmpty = true := by
    rw [List.isEmpty_iff, List.dropWhile_eq_nil_iff]
    obtain ⟨c, member, seen⟩ := exists_of_visible visible
    exact fun all => absurd (all c (List.mem_reverse.mpr member)) (by simp [seen])
  unfold trimEnd
  rw [List.reverse_append, List.dropWhile_append, if_neg some_left, List.reverse_append,
    List.reverse_reverse]

theorem trimEnd_of_allBlank (blank : allBlank text = true) : trimEnd text = [] := by
  have cut : trimEnd ([] ++ text) = [] := trimEnd_append blank nofun
  exact cut

theorem exists_trimEnd_cons (seen : isBlank c = false) (text : List Char) :
    ∃ rest, trimEnd (c :: text) = c :: rest := by
  cases blank : allBlank text with
  | true =>
      have cut : trimEnd ([c] ++ text) = [c] := trimEnd_append blank fun d last => by
        cases last
        exact seen
      exact ⟨[], cut⟩
  | false => exact ⟨trimEnd text, trimEnd_append_of_visible [c] blank⟩

/-- Blanks are taken off both ends, in either order. -/
theorem trim_eq (text : List Char) : trim text = trimStart (trimEnd text) := by
  obtain ⟨blanks, blank, cut⟩ := exists_blanks_trimStart text
  cases rest : trimStart text with
  | nil =>
      rw [rest, List.append_nil] at cut
      rw [trim, rest, cut, trimEnd_of_allBlank blank]
      rfl
  | cons c rest' =>
      have seen : isBlank c = false := by
        have head := List.head?_dropWhile_not isBlank text
        rw [← trimStart, rest] at head
        simpa using head
      obtain ⟨rest'', left⟩ := exists_trimEnd_cons seen rest'
      have visible : allBlank (c :: rest') = false := by simp [allBlank, seen]
      rw [rest] at cut
      rw [trim, rest, cut, trimEnd_append_of_visible blanks visible, left,
        trimStart_append blank fun d head => by cases head; exact seen]

end Ends

/-! ### Balances -/

/-- What a character adds to the number of open parentheses. -/
def parenWeight (c : Char) : Int :=
  if c = '(' then 1 else if c = ')' then -1 else 0

theorem parenBalance_eq_sum (code : List Char) : parenBalance code = (code.map parenWeight).sum := by
  have from_ (start : Int) : code.foldl (fun balance c =>
      if c = '(' then balance + 1 else if c = ')' then balance - 1 else balance) start =
        start + (code.map parenWeight).sum := by
    induction code generalizing start with
    | nil => simp
    | cons c rest ih =>
        rw [List.foldl_cons, ih, List.map_cons, List.sum_cons, ← add_assoc]
        congr 1
        unfold parenWeight
        split
        · rfl
        · split
          · rfl
          · exact (add_zero start).symm
  rw [parenBalance, from_, zero_add]

/-- A balance is within the length of its text, and so are those of the beginnings of the text on the way to
it. -/
theorem natAbs_parenBalance_le (code : List Char) : (parenBalance code).natAbs ≤ code.length := by
  rw [parenBalance_eq_sum]
  induction code with
  | nil => exact Nat.le_refl _
  | cons c rest ih =>
      have weight : (parenWeight c).natAbs ≤ 1 := by
        unfold parenWeight
        split
        · decide
        · split <;> decide
      rw [List.map_cons, List.sum_cons, List.length_cons]
      omega

theorem parenBalance_append (first more : List Char) :
    parenBalance (first ++ more) = parenBalance first + parenBalance more := by
  rw [parenBalance_eq_sum, parenBalance_eq_sum, parenBalance_eq_sum, List.map_append, List.sum_append]

theorem parenBalance_eq_zero {text : List Char} (none_ : ∀ c ∈ text, c ≠ '(' ∧ c ≠ ')') :
    parenBalance text = 0 := by
  rw [parenBalance_eq_sum]
  refine List.sum_eq_zero fun weight member => ?_
  obtain ⟨c, inside, rfl⟩ := List.mem_map.mp member
  rw [parenWeight, if_neg (none_ c inside).1, if_neg (none_ c inside).2]

theorem parenBalance_of_allBlank {blanks : List Char} (blank : allBlank blanks = true) :
    parenBalance blanks = 0 := by
  refine parenBalance_eq_zero fun c member => ?_
  have isBlank_c := List.all_eq_true.mp blank c member
  constructor
  · rintro rfl
    exact absurd isBlank_c (by decide)
  · rintro rfl
    exact absurd isBlank_c (by decide)

/-- The blank that joins two lines counts for nothing. -/
theorem parenBalance_append_line (text line : List Char) :
    parenBalance (text ++ ' ' :: line) = parenBalance text + parenBalance line := by
  have blank : parenBalance [' '] = 0 := by decide
  rw [List.append_cons, parenBalance_append, parenBalance_append, blank, add_zero]

theorem parenBalance_trimEnd (text : List Char) : parenBalance (trimEnd text) = parenBalance text := by
  obtain ⟨blanks, blank, cut⟩ := exists_trimEnd_blanks text
  have whole := congrArg parenBalance cut
  rw [parenBalance_append, parenBalance_of_allBlank blank, add_zero] at whole
  exact whole.symm

theorem parenBalance_trim (text : List Char) : parenBalance (trim text) = parenBalance text := by
  obtain ⟨blanks, blank, cut⟩ := exists_blanks_trimStart text
  have whole := congrArg parenBalance cut
  rw [parenBalance_append, parenBalance_of_allBlank blank, zero_add] at whole
  rw [trim, parenBalance_trimEnd, whole]

/-! ### The state after a text -/

namespace HeaderState

/-- The state that a condition leaves, as far as a text goes. -/
def ofText (text : List Char) : HeaderState :=
  ofBalance (parenBalance text) (trimEnd text)

/-- Of the text of a condition only the last character counts, besides the balance. -/
theorem ofBalance_congr (balance : Int) {code code' : List Char}
    (last : code.getLast? = code'.getLast?) : ofBalance balance code = ofBalance balance code' := by
  rw [ofBalance, ofBalance, last]

theorem getLast?_trim {text : List Char} (visible : allBlank text = false) :
    (trim text).getLast? = (trimEnd text).getLast? := by
  obtain ⟨blanks, blank, cut⟩ := exists_blanks_trimStart (trimEnd text)
  rw [← trim_eq] at cut
  have some_left : trim text ≠ [] := by
    intro nothing
    obtain ⟨blanks', blank', cut'⟩ := exists_trimEnd_blanks text
    rw [cut, nothing, List.append_nil] at cut'
    rw [cut', allBlank, List.all_append, Bool.and_eq_false_iff] at visible
    rw [allBlank] at blank blank'
    simp [blank, blank'] at visible
  rw [cut, List.getLast?_append_of_ne_nil _ some_left]

/-- **A further line of a condition** leaves the state of the whole text. -/
theorem advance_ofText {text line : List Char} (open_ : 0 < parenBalance text)
    (visible : allBlank line = false) :
    (ofText text).advance line = ofText (text ++ ' ' :: line) := by
  have opened : ofText text = { openCondition := some (parenBalance text) } := if_pos open_
  have last : (trim line).getLast? = (trimEnd (text ++ ' ' :: line)).getLast? := by
    have some_left : trimEnd line ≠ [] := by
      intro nothing
      obtain ⟨blanks, blank, cut⟩ := exists_trimEnd_blanks line
      rw [nothing, List.nil_append] at cut
      rw [cut, blank] at visible
      cases visible
    rw [getLast?_trim visible, List.append_cons, trimEnd_append_of_visible _ visible,
      List.getLast?_append_of_ne_nil _ some_left]
  rw [opened]
  show ofBalance (parenBalance text + parenBalance (trim line)) (trim line) = _
  rw [parenBalance_trim, ofText, parenBalance_append_line]
  exact ofBalance_congr _ last

end HeaderState

/-! ### Headers -/

theorem afterKeyword?_eq_some {keyword text rest : List Char} :
    afterKeyword? keyword text = some rest ↔
      text = keyword ++ rest ∧ ∀ c ∈ rest.head?, isIdentChar c = false := by
  rw [afterKeyword?, Option.filter_eq_some_iff, afterPrefix?_eq_some]
  refine and_congr_right fun _ => ?_
  cases rest.head? <;> simp

/-- What a line says after closing braces and an `else`. -/
def statementOf (line : List Char) : List Char :=
  let code := trimStart ((trim line).dropWhile (· == '}'))
  ((afterKeyword? "else".toList code).map trimStart).getD code

/-- A line that, closing braces and an `else` aside, begins with a header that has a condition. -/
def ControlHeader (line : List Char) : Prop :=
  HeaderState.isHeader (statementOf line) = true

instance (line : List Char) : Decidable (ControlHeader line) :=
  inferInstanceAs (Decidable (_ = true))

/-- What may stand before the keyword of a header: an `else` with blanks after it. -/
def IsElse (text : List Char) : Prop :=
  text = [] ∨ ∃ gap, text = "else".toList ++ gap ∧ gap ≠ [] ∧ allBlank gap = true

/-- A line with a control header, cut around its keyword and at the parenthesis. -/
structure HeaderParts (line blanks braces more else_ word gap condition : List Char) : Prop where
  cut : line = blanks ++ (braces ++ (more ++ (else_ ++ (word ++ (gap ++ '(' :: condition)))))
  before : allBlank blanks = true
  closing : ∀ c ∈ braces, c = '}'
  between : allBlank more = true
  isElse : IsElse else_
  keyword : word ∈ HeaderState.conditionKeywords
  after : allBlank gap = true

/-- A keyword begins with a letter, which tells it from all that may stand before it. -/
theorem exists_of_mem_conditionKeywords {word : List Char}
    (member : word ∈ HeaderState.conditionKeywords) :
    ∃ c rest, word = c :: rest ∧ isBlank c = false ∧ isIdentChar c = true ∧ c ≠ '}' ∧ c ≠ 'e' ∧
      c ≠ 'd' ∧ ∀ d ∈ word, d ≠ '(' ∧ d ≠ ')' := by
  simp only [HeaderState.conditionKeywords, List.map_cons, List.map_nil, List.mem_cons,
    List.not_mem_nil, or_false] at member
  rcases member with rfl | rfl | rfl
  · exact ⟨'i', ['f'], rfl, by decide, by decide, by decide, by decide, by decide, by simp⟩
  · exact ⟨'f', ['o', 'r'], rfl, by decide, by decide, by decide, by decide, by decide, by simp⟩
  · exact ⟨'w', ['h', 'i', 'l', 'e'], rfl, by decide, by decide, by decide, by decide, by decide, by simp⟩

theorem isHeader_iff {text : List Char} :
    HeaderState.isHeader text = true ↔
      ∃ word ∈ HeaderState.conditionKeywords, ∃ gap condition,
        allBlank gap = true ∧ text = word ++ (gap ++ '(' :: condition) := by
  have parenthesis : isBlank '(' = false := by decide
  constructor
  · intro header
    obtain ⟨word, member, follows⟩ := List.any_eq_true.mp header
    obtain ⟨rest, found, opens⟩ := (Option.any_eq_true _ _).mp follows
    obtain ⟨rfl, -⟩ := afterKeyword?_eq_some.mp found
    obtain ⟨gap, blank, cut⟩ := exists_blanks_trimStart rest
    obtain ⟨condition, opened⟩ := List.head?_eq_some_iff.mp (beq_iff_eq.mp opens)
    rw [opened] at cut
    exact ⟨word, member, gap, condition, blank, by rw [cut]⟩
  · rintro ⟨word, member, gap, condition, blank, rfl⟩
    have follows : ∀ c ∈ (gap ++ '(' :: condition).head?, isIdentChar c = false := by
      cases gap with
      | nil =>
          intro c head
          cases head
          decide
      | cons d gap =>
          intro c head
          cases head
          exact (continues_of_isBlank (List.all_eq_true.mp blank d List.mem_cons_self)).1
    have opens : trimStart (gap ++ '(' :: condition) = '(' :: condition :=
      trimStart_append blank fun c head => by cases head; exact parenthesis
    refine List.any_eq_true.mpr ⟨word, member, ?_⟩
    rw [afterKeyword?_eq_some.mpr ⟨rfl, follows⟩, Option.any_some, opens]
    rfl

/-- After an `else` the text of a header goes on with its keyword. -/
theorem afterElse_eq {else_ word rest : List Char} (isElse : IsElse else_)
    (member : word ∈ HeaderState.conditionKeywords) :
    (afterKeyword? "else".toList (else_ ++ (word ++ rest))).map trimStart =
      if else_ = [] then none else some (word ++ rest) := by
  obtain ⟨c, letters, rfl, seen, -, -, notE, -⟩ := exists_of_mem_conditionKeywords member
  rcases isElse with rfl | ⟨gap, rfl, nonempty, blank⟩
  · rw [if_pos rfl, Option.map_eq_none_iff, Option.eq_none_iff_forall_ne_some]
    intro rest' found
    have begins := (afterKeyword?_eq_some.mp found).1
    exact notE (List.cons.inj begins).1
  · have apart : ∀ d ∈ (gap ++ (c :: letters ++ rest)).head?, isIdentChar d = false := by
      intro d head
      cases gap with
      | nil => exact absurd rfl nonempty
      | cons d' gap =>
          cases head
          exact (continues_of_isBlank (List.all_eq_true.mp blank d List.mem_cons_self)).1
    have found := afterKeyword?_eq_some.mpr ⟨List.append_assoc "else".toList gap _, apart⟩
    rw [found, Option.map_some, trimStart_append blank fun d head => by cases head; exact seen]
    exact (if_neg (by simp)).symm

theorem ControlHeader.exists_parts {line : List Char} (header : ControlHeader line) :
    ∃ blanks braces more else_ word gap condition,
      HeaderParts line blanks braces more else_ word gap condition := by
  obtain ⟨blanks, before, cut⟩ := exists_blanks_trimStart line
  obtain ⟨final, -, cutEnd⟩ := exists_trimEnd_blanks (trimStart line)
  have cutBraces := List.takeWhile_append_dropWhile (p := (· == '}')) (l := trim line)
  obtain ⟨more, between, cutMore⟩ := exists_blanks_trimStart ((trim line).dropWhile (· == '}'))
  have closing : ∀ c ∈ (trim line).takeWhile (· == '}'), c = '}' := fun c member =>
    beq_iff_eq.mp (List.mem_takeWhile_imp (p := (· == '}')) member)
  have whole : line = blanks ++ ((trim line).takeWhile (· == '}') ++ (more ++
      (trimStart ((trim line).dropWhile (· == '}')) ++ final))) := by
    rw [← List.append_assoc more, ← cutMore, ← List.append_assoc (List.takeWhile _ _), cutBraces, trim,
      ← cutEnd, ← cut]
  rw [ControlHeader, statementOf] at header
  generalize trimStart ((trim line).dropWhile (· == '}')) = code at header whole
  -- What is left to find is the header in the code after the braces.
  suffices ∃ else_ word gap condition, code = else_ ++ (word ++ (gap ++ '(' :: condition)) ∧
      IsElse else_ ∧ word ∈ HeaderState.conditionKeywords ∧ allBlank gap = true by
    obtain ⟨else_, word, gap, condition, rfl, isElse, keyword, after⟩ := this
    refine ⟨blanks, _, more, else_, word, gap, condition ++ final, ?_, before, closing, between,
      isElse, keyword, after⟩
    simpa only [List.append_assoc, List.cons_append] using whole
  cases found : afterKeyword? "else".toList code with
  | none =>
      rw [found] at header
      obtain ⟨word, member, gap, condition, blank, rfl⟩ := isHeader_iff.mp header
      exact ⟨[], word, gap, condition, rfl, Or.inl rfl, member, blank⟩
  | some rest =>
      rw [found] at header
      obtain ⟨word, member, gap, condition, blank, begins⟩ := isHeader_iff.mp header
      obtain ⟨rfl, apart⟩ := afterKeyword?_eq_some.mp found
      obtain ⟨gap', blank', cutRest⟩ := exists_blanks_trimStart rest
      change trimStart rest = word ++ (gap ++ '(' :: condition) at begins
      rw [begins] at cutRest
      refine ⟨"else".toList ++ gap', word, gap, condition, by rw [cutRest, List.append_assoc],
        Or.inr ⟨gap', rfl, ?_, blank'⟩, member, blank⟩
      -- Without a blank the keyword would go on from the word before it.
      rintro rfl
      obtain ⟨c, letters, rfl, -, letter, -⟩ := exists_of_mem_conditionKeywords member
      have := apart c (by rw [cutRest]; rfl)
      rw [letter] at this
      cases this

namespace HeaderParts

variable {line blanks braces more else_ word gap condition : List Char}
  (parts : HeaderParts line blanks braces more else_ word gap condition)
include parts

theorem cut_keyword : line = (blanks ++ (braces ++ (more ++ else_))) ++
    (word ++ (gap ++ '(' :: condition)) := by
  rw [parts.cut]
  simp only [List.append_assoc]

/-- What comes after the parenthesis makes no difference. -/
theorem append (tail : List Char) :
    HeaderParts (line ++ tail) blanks braces more else_ word gap (condition ++ tail) :=
  { parts with cut := by rw [parts.cut]; simp only [List.append_assoc, List.cons_append] }

theorem visible : allBlank line = false := by
  rw [parts.cut]
  have parenthesis : isBlank '(' = false := by decide
  simp [allBlank, parenthesis]

/-- Blanks at the end of the line come after the parenthesis. -/
theorem exists_trimEnd :
    ∃ condition', HeaderParts (trimEnd line) blanks braces more else_ word gap condition' := by
  have parenthesis : isBlank '(' = false := by decide
  obtain ⟨condition', left⟩ := exists_trimEnd_cons parenthesis condition
  have visible : allBlank ('(' :: condition) = false := by simp [allBlank, parenthesis]
  refine ⟨condition', { parts with cut := ?_ }⟩
  have trimmed := trimEnd_append_of_visible
    (blanks ++ (braces ++ (more ++ (else_ ++ (word ++ gap))))) visible
  rw [left] at trimmed
  rw [parts.cut]
  simpa only [List.append_assoc] using trimmed

/-- The code after the closing braces begins with a letter. -/
theorem exists_code : ∃ c rest, else_ ++ (word ++ (gap ++ '(' :: condition)) = c :: rest ∧
    isBlank c = false ∧ c ≠ '}' := by
  obtain ⟨c, letters, rfl, seen, -, noBrace, -⟩ := exists_of_mem_conditionKeywords parts.keyword
  rcases parts.isElse with rfl | ⟨gap', rfl, -⟩
  · exact ⟨c, _, rfl, seen, noBrace⟩
  · exact ⟨'e', _, rfl, by decide, by decide⟩

/-- Past the closing braces and the blanks around them. -/
theorem code_eq : trimStart ((trimStart line).dropWhile (· == '}')) =
    else_ ++ (word ++ (gap ++ '(' :: condition)) := by
  obtain ⟨c, rest, code, seen, noBrace⟩ := parts.exists_code
  rw [parts.cut, code]
  have visible : ∀ d ∈ (c :: rest).head?, isBlank d = false := fun d head => by cases head; exact seen
  have notBrace : (c == '}') = false := beq_false_of_ne noBrace
  cases braces with
  | nil =>
      have blank : allBlank (blanks ++ more) = true := by
        rw [allBlank, List.all_append, Bool.and_eq_true]
        exact ⟨parts.before, parts.between⟩
      rw [List.nil_append, ← List.append_assoc, trimStart_append blank visible,
        List.dropWhile_cons_of_neg (by simp [notBrace]), trimStart,
        List.dropWhile_cons_of_neg (by simp [seen])]
  | cons d braces =>
      obtain rfl := parts.closing d List.mem_cons_self
      have brace : isBlank '}' = false := by decide
      have all : ∀ d ∈ '}' :: braces, (d == '}') = true :=
        fun d member => beq_iff_eq.mpr (parts.closing d member)
      have stops : (more ++ c :: rest).dropWhile (· == '}') = more ++ c :: rest := by
        cases more with
        | nil => exact List.dropWhile_cons_of_neg (by simp [notBrace])
        | cons d more =>
            have blank := List.all_eq_true.mp parts.between d List.mem_cons_self
            have other : d ≠ '}' := by
              rintro rfl
              rw [brace] at blank
              cases blank
            exact List.dropWhile_cons_of_neg (by simpa using other)
      rw [trimStart_append parts.before fun d head => by cases head; exact brace,
        List.dropWhile_append_of_pos all, stops, trimStart_append parts.between visible]

/-- All parentheses of the line come after the keyword. -/
theorem parenBalance_eq :
    parenBalance line = parenBalance (word ++ (gap ++ '(' :: condition)) := by
  have ofBraces : parenBalance braces = 0 := by
    refine parenBalance_eq_zero fun c member => ?_
    rw [parts.closing c member]
    decide
  have ofElse : parenBalance else_ = 0 := by
    rcases parts.isElse with rfl | ⟨gap', rfl, -, blank⟩
    · rfl
    · rw [parenBalance_append, parenBalance_of_allBlank blank]
      decide
  rw [parts.cut, parenBalance_append, parenBalance_append, parenBalance_append, parenBalance_append,
    ofBraces, ofElse, parenBalance_of_allBlank parts.before, parenBalance_of_allBlank parts.between]
  simp only [zero_add]

/-- **A line that begins with a header** leaves the state of its text. -/
theorem advance_eq {s : HeaderState} (closed : s.openCondition = none) :
    s.advance line = HeaderState.ofText line := by
  obtain ⟨condition', trimmed⟩ := parts.exists_trimEnd
  obtain ⟨c, letters, begins, -, -, -, -, notD, -⟩ := exists_of_mem_conditionKeywords parts.keyword
  have statement : (afterKeyword? "else".toList (else_ ++ (word ++ (gap ++ '(' :: condition')))).map
      trimStart = if else_ = [] then none else some (word ++ (gap ++ '(' :: condition')) :=
    afterElse_eq parts.isElse parts.keyword
  have notDo : afterKeyword? "do".toList (word ++ (gap ++ '(' :: condition')) = none := by
    rw [Option.eq_none_iff_forall_ne_some]
    intro rest found
    rw [begins] at found
    exact notD (List.cons.inj (afterKeyword?_eq_some.mp found).1).1
  have isHeader : HeaderState.isHeader (word ++ (gap ++ '(' :: condition')) = true :=
    isHeader_iff.mpr ⟨word, parts.keyword, gap, condition', parts.after, rfl⟩
  have balance : parenBalance (word ++ (gap ++ '(' :: condition')) = parenBalance line := by
    rw [← trimmed.parenBalance_eq, parenBalance_trimEnd]
  have last : (word ++ (gap ++ '(' :: condition')).getLast? = (trimEnd line).getLast? := by
    have nonempty : word ++ (gap ++ '(' :: condition') ≠ [] := by simp
    have whole := List.getLast?_append_of_ne_nil (blanks ++ (braces ++ (more ++ else_))) nonempty
    rw [← trimmed.cut_keyword] at whole
    exact whole.symm
  have alone : ((if else_ = [] then none else some (word ++ (gap ++ '(' :: condition'))) ==
      some []) = false := by
    split <;> simp
  have goesOn : (if else_ = [] then none else some (word ++ (gap ++ '(' :: condition'))).getD
      (else_ ++ (word ++ (gap ++ '(' :: condition'))) = word ++ (gap ++ '(' :: condition') := by
    split
    · next none_ => rw [none_]; rfl
    · rfl
  have reads : HeaderState.ofStatement (trim line) =
      HeaderState.ofBalance (parenBalance (word ++ (gap ++ '(' :: condition')))
        (word ++ (gap ++ '(' :: condition')) := by
    unfold HeaderState.ofStatement
    rw [trim_eq, trimmed.code_eq]
    dsimp only
    rw [statement, alone, goesOn, notDo, if_neg Bool.false_ne_true, if_neg (by simp), if_pos isHeader]
  have step : s.advance line = HeaderState.ofStatement (trim line) := by
    unfold HeaderState.advance
    rw [closed]
  rw [step, reads, HeaderState.ofText, balance]
  exact HeaderState.ofBalance_congr _ last

end HeaderParts

/-! ### Lines -/

/-- **The lines of a condition**, one after the other, leave the state of their text. -/
theorem foldl_advance_ofText {text : List Char} {more : List (List Char)}
    (visible : ∀ line ∈ more, allBlank line = false)
    (open_ : ∀ k < more.length, 0 < parenBalance text + ((more.take k).map parenBalance).sum) :
    more.foldl HeaderState.advance (HeaderState.ofText text) =
      HeaderState.ofText (text ++ more.flatMap (' ' :: ·)) := by
  induction more generalizing text with
  | nil => rw [List.flatMap_nil, List.append_nil, List.foldl_nil]
  | cons line more ih =>
      have opened : 0 < parenBalance text := by simpa using open_ 0 (Nat.succ_pos _)
      have more_open : ∀ k < more.length,
          0 < parenBalance (text ++ ' ' :: line) + ((more.take k).map parenBalance).sum := by
        intro k within
        have further := open_ (k + 1) (Nat.succ_lt_succ within)
        rw [List.take_succ_cons, List.map_cons, List.sum_cons, ← add_assoc] at further
        rw [parenBalance_append_line]
        exact further
      rw [List.foldl_cons, HeaderState.advance_ofText opened (visible line List.mem_cons_self),
        ih (fun line member => visible line (List.mem_cons_of_mem _ member)) more_open,
        List.flatMap_cons, List.append_assoc]

/-- The lines of a text on one line, with a blank between each two. -/
def joined (first : List Char) (more : List (List Char)) : List Char :=
  [' '].intercalate (first :: more)

theorem joined_eq (first : List Char) (more : List (List Char)) :
    joined first more = first ++ more.flatMap (' ' :: ·) := by
  induction more generalizing first with
  | nil => simp [joined, List.intercalate]
  | cons line more ih =>
      have step : joined first (line :: more) = first ++ ' ' :: joined line more := by
        simp [joined, List.intercalate]
      rw [step, ih, List.flatMap_cons]
      rfl

/-- Where no line is without code, every line counts. -/
theorem HeaderState.after_eq (s : HeaderState) {lines : List Line}
    (visible : ∀ code ∈ lines.map Line.code, allBlank code = false) :
    s.after lines = (lines.map Line.code).foldl HeaderState.advance s := by
  have all : lines.filter (fun line => !allBlank line.code) = lines := by
    rw [List.filter_eq_self]
    intro line member
    rw [visible line.code (List.mem_map_of_mem member)]
    rfl
  rw [HeaderState.after, all, List.foldl_map]

/-- **Cutting the condition of a header over lines makes no difference to what follows.** The lines leave
the same state as the one line that they make up, and so the returns on the lines after them are judged the
same. -/
theorem header_over_lines {s : HeaderState} (closed : s.openCondition = none) {first : List Char}
    {more : List (List Char)} (header : ControlHeader first)
    (visible : ∀ line ∈ more, allBlank line = false)
    (open_ : ∀ k < more.length, 0 < ((first :: more.take k).map parenBalance).sum) :
    (first :: more).foldl HeaderState.advance s = s.advance (joined first more) ∧
      ∀ (lines : List Line) (whole : Line) (later : List Line),
        lines.map Line.code = first :: more → whole.code = joined first more →
        topLevelReturns s (lines ++ later) =
            topLevelReturns s lines ++ topLevelReturns (s.advance whole.code) later ∧
          topLevelReturns s (whole :: later) =
            topLevelReturns s [whole] ++ topLevelReturns (s.advance whole.code) later := by
  obtain ⟨blanks, braces, between, else_, word, gap, condition, parts⟩ := header.exists_parts
  have wholeParts := parts.append (more.flatMap (' ' :: ·))
  rw [← joined_eq] at wholeParts
  have same : (first :: more).foldl HeaderState.advance s = s.advance (joined first more) := by
    rw [wholeParts.advance_eq closed, joined_eq, List.foldl_cons, parts.advance_eq closed]
    refine foldl_advance_ofText visible fun k within => ?_
    have opened := open_ k within
    rwa [List.map_cons, List.sum_cons] at opened
  refine ⟨same, fun lines whole later codes code => ⟨?_, ?_⟩⟩
  · have left : s.after lines = s.advance whole.code := by
      rw [HeaderState.after_eq, codes, same, code]
      rw [codes]
      exact List.forall_mem_cons.mpr ⟨parts.visible, visible⟩
    rw [topLevelReturns_append, left]
  · have left : s.after [whole] = s.advance whole.code := by
      rw [HeaderState.after_eq]
      · rfl
      · rw [List.map_singleton, List.forall_mem_singleton, code]
        exact wholeParts.visible
    rw [← List.singleton_append, topLevelReturns_append, left]

/-- A header after a closing brace and an `else`; its condition goes on for two lines. -/
def wrappedHeader : List Char := "\x7d else if (a(".toList

/-- The lines on which the condition goes on. The last one closes it. -/
def wrappedCondition : List (List Char) := ["b) &&".toList, "  c)".toList]

theorem header_over_lines_three :
    ControlHeader wrappedHeader ∧
      (wrappedHeader :: wrappedCondition).foldl HeaderState.advance {} = { pending := true } ∧
      HeaderState.advance {} (joined wrappedHeader wrappedCondition) = { pending := true } := by
  have closed : ({} : HeaderState).openCondition = none := rfl
  have header : ControlHeader wrappedHeader := by decide +kernel
  have visible : ∀ line ∈ wrappedCondition, allBlank line = false := by decide +kernel
  have open_ : ∀ k < wrappedCondition.length,
      0 < ((wrappedHeader :: wrappedCondition.take k).map parenBalance).sum := by decide +kernel
  obtain ⟨same, -⟩ := header_over_lines closed header visible open_
  have lines : (wrappedHeader :: wrappedCondition).foldl HeaderState.advance {} =
      { pending := true } := by decide +kernel
  exact ⟨header, lines, same.symm.trans lines⟩

end FlowAudit.Rule
