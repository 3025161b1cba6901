import FlowAudit.Render.Word

/-!
# FlowAudit.Proofs.Render.Escape

Taking the escape sequences of styles out of a text again. `withoutSequences` reads a text once, from
left to right, and leaves out every sequence of an escape character, a bracket, decimal digits and an
`m`; nothing else is changed.

On a page whose pieces hold no escape character of their own this undoes what styles add:
`stripped_colored` gives the plain text back, character by character, so the two have the same
columns. The rest of the module is about what pages have in common: padding, numbers and times bring
in no escape character, and a page has none if its pieces have none. As `simp` lemmas these reduce a
page to the texts in it.
-/

namespace FlowAudit.Render

open FlowAudit.Number

/-! ### Sequences in a text -/

/-- What follows the sequence that a text begins with, if it begins with one. -/
def afterSequence? : List Char → Option (List Char)
  | '\x1b' :: '[' :: rest =>
    match rest.takeWhile Char.isDigit, rest.dropWhile Char.isDigit with
    | _ :: _, 'm' :: after => some after
    | _, _ => none
  | _ => none

theorem afterSequence?_length {cs after : List Char} (begins : afterSequence? cs = some after) :
    after.length < cs.length := by
  unfold afterSequence? at begins
  split at begins
  case h_2 => cases begins
  case h_1 rest =>
    split at begins
    case h_2 => cases begins
    case h_1 letters =>
      cases begins
      have shorter := (List.dropWhile_sublist (p := Char.isDigit) (l := rest)).length_le
      rw [letters, List.length_cons] at shorter
      simp only [List.length_cons]
      omega

/-- A text without the sequences of styles in it. -/
def withoutSequences : List Char → List Char
  | [] => []
  | c :: rest =>
    match _begins : afterSequence? (c :: rest) with
    | some after => withoutSequences after
    | none => c :: withoutSequences rest
termination_by cs => cs.length
decreasing_by
  · exact afterSequence?_length _begins
  · exact Nat.lt_succ_self _

/-- `withoutSequences` on a text. -/
def stripped (text : String) : String :=
  String.ofList (withoutSequences text.toList)

theorem withoutSequences_of_begins {cs after : List Char}
    (begins : afterSequence? cs = some after) :
    withoutSequences cs = withoutSequences after := by
  cases cs with
  | nil => cases begins
  | cons c rest =>
    rw [withoutSequences]
    split
    case h_1 after' begins' =>
      rw [begins] at begins'
      cases begins'
      rfl
    case h_2 none => rw [begins] at none; cases none

theorem withoutSequences_cons {c : Char} (ordinary : c ≠ '\x1b') (rest : List Char) :
    withoutSequences (c :: rest) = c :: withoutSequences rest := by
  have none : afterSequence? (c :: rest) = none := by
    unfold afterSequence?
    split
    case h_1 same => cases same; exact absurd rfl ordinary
    case h_2 => rfl
  rw [withoutSequences]
  split
  case h_1 begins => rw [none] at begins; cases begins
  case h_2 => rfl

theorem withoutSequences_append {text : List Char} (ordinary : '\x1b' ∉ text) (rest : List Char) :
    withoutSequences (text ++ rest) = text ++ withoutSequences rest := by
  induction text with
  | nil => rfl
  | cons c text ih =>
    obtain ⟨first, others⟩ := not_or.mp fun either => ordinary (List.mem_cons.mpr either)
    rw [List.cons_append, withoutSequences_cons (Ne.symm first), ih others, List.cons_append]

/-! ### The sequences that styles write -/

theorem afterSequence?_escape (code : Nat) (rest : List Char) :
    afterSequence? (escape code ++ rest) = some rest := by
  have digits : ∀ c ∈ Nat.toDigits 10 code, c.isDigit = true := fun c member =>
    Nat.isDigit_of_mem_toDigits (by decide) (by decide) member
  have spelled : escape code ++ rest =
      '\x1b' :: '[' :: (Nat.toDigits 10 code ++ 'm' :: rest) := by
    simp [escape]
  have read : (Nat.toDigits 10 code ++ 'm' :: rest).takeWhile Char.isDigit = Nat.toDigits 10 code := by
    rw [List.takeWhile_append_of_pos digits, List.takeWhile_cons_of_neg (by decide), List.append_nil]
  have left : (Nat.toDigits 10 code ++ 'm' :: rest).dropWhile Char.isDigit = 'm' :: rest := by
    rw [List.dropWhile_append_of_pos digits, List.dropWhile_cons_of_neg (by decide)]
  obtain ⟨d, others, written⟩ := List.exists_cons_of_ne_nil (Nat.toDigits_ne_nil (b := 10) (n := code))
  rw [spelled, afterSequence?, read, left, written]
  rfl

theorem withoutSequences_escape (code : Nat) (rest : List Char) :
    withoutSequences (escape code ++ rest) = withoutSequences rest :=
  withoutSequences_of_begins (afterSequence?_escape code rest)

theorem withoutSequences_escapes (codes : List Nat) (rest : List Char) :
    withoutSequences (codes.flatMap escape ++ rest) = withoutSequences rest := by
  induction codes with
  | nil => rfl
  | cons code codes ih =>
    rw [List.flatMap_cons, List.append_assoc, withoutSequences_escape, ih]

/-! ### Pages -/

/-- A text without any escape character. -/
def EscapeFree (text : String) : Prop :=
  '\x1b' ∉ text.toList

instance (text : String) : Decidable (EscapeFree text) :=
  inferInstanceAs (Decidable ('\x1b' ∉ text.toList))

/-- No piece of the page has an escape character in its text. -/
def Page.EscapeFree (page : Page) : Prop :=
  ∀ piece ∈ page, Render.EscapeFree piece.text

theorem withoutSequences_piece {piece : Piece} (ordinary : EscapeFree piece.text)
    (rest : List Char) :
    withoutSequences (piece.colored ++ rest) = piece.text.toList ++ withoutSequences rest := by
  unfold Piece.colored
  split
  case h_1 => exact withoutSequences_append ordinary rest
  case h_2 codes _ =>
    rw [List.append_assoc, List.append_assoc, withoutSequences_escapes,
      withoutSequences_append ordinary, withoutSequences_escape]

/-- A page without escape characters of its own, written with its styles and then stripped of them,
is the page written plain. -/
theorem stripped_colored {page : Page} (ordinary : page.EscapeFree) :
    stripped page.colored = page.plain := by
  have pieces : ∀ page : Page, page.EscapeFree →
      withoutSequences (page.flatMap Piece.colored) = page.flatMap fun piece => piece.text.toList := by
    intro page
    induction page with
    | nil => intro _; rw [List.flatMap_nil, List.flatMap_nil, withoutSequences]
    | cons piece page ih =>
      intro ordinary
      obtain ⟨first, others⟩ := List.forall_mem_cons.mp ordinary
      rw [List.flatMap_cons, List.flatMap_cons, withoutSequences_piece first, ih others]
  rw [stripped, Page.colored, Page.plain, String.toList_ofList, pieces page ordinary]

/-- What has no digits is not a sequence of styles and stays. -/
example : withoutSequences "\x1b[31ma\x1b[mb".toList = "a\x1b[mb".toList := by cbv

/-! ### Words -/

theorem escapeFree_ofList {cs : List Char} : EscapeFree (String.ofList cs) ↔ '\x1b' ∉ cs := by
  rw [EscapeFree, String.toList_ofList]

theorem escapeFree_fill (n : Nat) {c : Char} (ordinary : '\x1b' ≠ c) :
    EscapeFree (String.ofList (List.replicate n c)) :=
  escapeFree_ofList.mpr fun member => ordinary (List.eq_of_mem_replicate member)

@[simp] theorem escapeFree_append {a b : String} :
    EscapeFree (a ++ b) ↔ EscapeFree a ∧ EscapeFree b := by
  simp only [EscapeFree, String.toList_append, List.mem_append, not_or]

@[simp] theorem escapeFree_padLeft {width : Nat} {text : String} :
    EscapeFree (padLeft width text) ↔ EscapeFree text := by
  rw [padLeft, escapeFree_append, and_iff_right (escapeFree_fill _ (by decide))]

@[simp] theorem escapeFree_padRight {width : Nat} {text : String} :
    EscapeFree (padRight width text) ↔ EscapeFree text := by
  rw [padRight, escapeFree_append, and_iff_left (escapeFree_fill _ (by decide))]

theorem not_mem_toDigits (n : Nat) : '\x1b' ∉ Nat.toDigits 10 n := fun member =>
  absurd (Nat.isDigit_of_mem_toDigits (by decide) (by decide) member) (by decide)

@[simp] theorem escapeFree_repr (n : Nat) : EscapeFree (Nat.repr n) :=
  escapeFree_ofList.mpr (not_mem_toDigits n)

@[simp] theorem escapeFree_intRepr (n : Int) : EscapeFree n.repr := by
  cases n with
  | ofNat n => exact escapeFree_repr n
  | negSucc n =>
    exact escapeFree_append.mpr ⟨escapeFree_ofList.mpr (by decide), escapeFree_repr (n + 1)⟩

/-! ### Numbers and times -/

theorem not_mem_positional (d : Decimal) :
    '\x1b' ∉ (positional d).1 ∧ '\x1b' ∉ (positional d).2 := by
  have digits : '\x1b' ∉ digitChars d.digits := not_mem_toDigits d.digits
  unfold positional
  dsimp only
  split
  · simp [digits]
  · split
    · rw [List.splitAt_eq]
      exact ⟨fun member => digits (List.mem_of_mem_take member),
        fun member => digits (List.mem_of_mem_drop member)⟩
    · simp [digits]

theorem not_mem_withSign {text : List Char} (ordinary : '\x1b' ∉ text) (negative : Bool) :
    '\x1b' ∉ withSign negative text := by
  cases negative <;> simp [withSign, ordinary]

/-- A number as it is laid out: its sign, its whole part and, unless it is left out, its fraction. -/
theorem not_mem_signed (negative : Bool) (d : Decimal) (whole : Prop) [Decidable whole] :
    '\x1b' ∉ withSign negative
      (if whole then (positional d).1 else (positional d).1 ++ '.' :: (positional d).2) := by
  obtain ⟨before, after⟩ := not_mem_positional d
  have digits : '\x1b' ∉
      if whole then (positional d).1 else (positional d).1 ++ '.' :: (positional d).2 := by
    split
    · exact before
    · simp [before, after]
  exact not_mem_withSign digits negative

theorem not_mem_fixed (count : Nat) (x : Float) : '\x1b' ∉ fixed count x := by
  unfold fixed
  split
  case h_1 => simp
  case h_2 => exact not_mem_withSign (by simp) _
  case h_3 v _ => exact not_mem_signed v.negative _ (count = 0)

theorem not_mem_plain (x : Float) : '\x1b' ∉ plain x := by
  unfold plain
  split
  case h_1 => simp
  case h_2 => exact not_mem_withSign (by simp) _
  case h_3 v _ =>
    split
    · exact not_mem_withSign (by simp) _
    · exact not_mem_signed v.negative (shortest .up v) (_ = true)

@[simp] theorem escapeFree_places (count : Nat) (x : Float) : EscapeFree (places count x) :=
  escapeFree_ofList.mpr (not_mem_fixed count x)

@[simp] theorem escapeFree_placesIn (width count : Nat) (x : Float) :
    EscapeFree (placesIn width count x) :=
  escapeFree_padLeft.mpr (escapeFree_places count x)

@[simp] theorem escapeFree_plainNumber (x : Float) : EscapeFree (plainNumber x) :=
  escapeFree_ofList.mpr (not_mem_plain x)

@[simp] theorem escapeFree_padZero (width n : Nat) : EscapeFree (padZero width n) :=
  escapeFree_append.mpr ⟨escapeFree_fill _ (by decide), escapeFree_repr n⟩

@[simp] theorem escapeFree_yearText (year : Int) : EscapeFree (Date.yearText year) := by
  unfold Date.yearText
  split
  · simp
  · split <;> simp +decide

@[simp] theorem escapeFree_dateText (date : Date) : EscapeFree date.text := by
  simp +decide [Date.text]

@[simp] theorem escapeFree_clockText (t : Instant) : EscapeFree t.clockText := by
  simp +decide [Instant.clockText]

@[simp] theorem escapeFree_timeText (t : Instant) : EscapeFree t.timeText := by
  simp +decide [Instant.timeText]

@[simp] theorem escapeFree_minuteText (t : Instant) : EscapeFree t.minuteText := by
  simp +decide [Instant.minuteText]

@[simp] theorem escapeFree_secondText (t : Instant) : EscapeFree t.secondText := by
  simp +decide [Instant.secondText]

@[simp] theorem escapeFree_hourText (t : Instant) : EscapeFree t.hourText := by
  simp +decide [Instant.hourText]

/-! ### Pieces and lines -/

namespace Page

@[simp] theorem escapeFree_nil : EscapeFree [] := List.forall_mem_nil _

@[simp] theorem escapeFree_cons {piece : Piece} {page : Page} :
    EscapeFree (piece :: page) ↔ Render.EscapeFree piece.text ∧ EscapeFree page :=
  List.forall_mem_cons

@[simp] theorem escapeFree_append {a b : Page} :
    EscapeFree (a ++ b) ↔ EscapeFree a ∧ EscapeFree b :=
  List.forall_mem_append

theorem escapeFree_flatMap {α : Type} {items : List α} {shown : α → Page}
    (each : ∀ item ∈ items, EscapeFree (shown item)) : EscapeFree (items.flatMap shown) := by
  intro piece member
  obtain ⟨item, among, within⟩ := List.mem_flatMap.mp member
  exact each item among piece within

@[simp] theorem escapeFree_ite {condition : Prop} [Decidable condition] {a b : Page} :
    EscapeFree (if condition then a else b) ↔
      if condition then EscapeFree a else EscapeFree b := by
  split <;> rfl

@[simp] theorem escapeFree_line {pieces : List Piece} :
    EscapeFree (line pieces) ↔ EscapeFree pieces := by
  simp +decide [line]

@[simp] theorem escapeFree_header {title : String} :
    EscapeFree (header title) ↔ Render.EscapeFree title := by
  have rule : Render.EscapeFree (String.ofList (List.replicate 38 '─')) :=
    escapeFree_fill 38 (by decide)
  have lineBreak : Render.EscapeFree "\n" := escapeFree_ofList.mpr (by decide)
  simp only [header, bold, dim, escapeFree_append, escapeFree_line, escapeFree_cons, escapeFree_nil,
    lineBreak, rule, true_and, and_true]

end Page

@[simp] theorem text_bold (text : String) : (bold text).text = text := rfl

@[simp] theorem text_dim (text : String) : (dim text).text = text := rfl

@[simp] theorem text_red (text : String) : (red text).text = text := rfl

@[simp] theorem text_green (text : String) : (green text).text = text := rfl

@[simp] theorem text_yellow (text : String) : (yellow text).text = text := rfl

@[simp] theorem text_blue (text : String) : (blue text).text = text := rfl

@[simp] theorem text_cyan (text : String) : (cyan text).text = text := rfl

@[simp] theorem escapeFree_outOfHundred (score : Float) :
    EscapeFree (outOfHundred score).text := by
  simp +decide [outOfHundred]

@[simp] theorem escapeFree_gradePiece (grade : Grade) : EscapeFree (gradePiece grade).text := by
  cases grade <;> exact escapeFree_ofList.mpr (by decide)

@[simp] theorem escapeFree_severityPiece (severity : Severity) :
    EscapeFree (severityPiece severity).text := by
  cases severity <;> exact escapeFree_ofList.mpr (by decide)

@[simp] theorem escapeFree_alertSeverityPiece (severity : AlertSeverity) :
    EscapeFree (alertSeverityPiece severity).text := by
  cases severity <;> exact escapeFree_ofList.mpr (by decide)

@[simp] theorem escapeFree_tag (kind : Kind) : EscapeFree kind.tag := by
  cases kind <;> exact escapeFree_ofList.mpr (by decide)

@[simp] theorem escapeFree_metricName (metric : Metric) : EscapeFree metric.name := by
  cases metric <;> exact escapeFree_ofList.mpr (by decide)

@[simp] theorem escapeFree_metricUnit (metric : Metric) : EscapeFree metric.unit := by
  cases metric <;> exact escapeFree_ofList.mpr (by decide)

theorem escapeFree_issueLine (indent : String) {issue : IssueView} (margin : EscapeFree indent)
    (message : EscapeFree issue.message) : (issueLine indent issue).EscapeFree := by
  unfold issueLine
  split <;> simp +decide [margin, message]

theorem escapeFree_issueLines (indent : String) {issues : List IssueView}
    (margin : EscapeFree indent) (messages : ∀ issue ∈ issues, EscapeFree issue.message) :
    Page.EscapeFree (issues.flatMap (issueLine indent)) :=
  Page.escapeFree_flatMap fun issue member =>
    escapeFree_issueLine indent margin (messages issue member)

theorem escapeFree_alertLines (alerts : List (AlertView Float)) :
    Page.EscapeFree (alerts.flatMap alertLine) :=
  Page.escapeFree_flatMap fun alert _ => by simp +decide [alertLine]

end FlowAudit.Render
