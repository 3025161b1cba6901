import FlowAudit.Proofs.Rule.Report

/-!
# FlowAudit.Proofs.Rule.EmptyLines

**Runs of empty lines.** The rule goes along the lines with the run that ends just before the next one.
What it is to find is said by numbers of lines alone: a run is longest when all its lines are blank and
neither the line before it nor the one after it is (`BlankRun.IsLongest`). A line that is not there counts
as one that is not blank, so the ends of a source are no special case.

The invariant is `OpenAt`: what is open before a line is the beginning of a longest run, up to that line.
So the runs found from there on are the longest ones that do not end earlier (`blankRuns_longest`), and of
those each one ends before the next one starts. The rule reports the ones of two lines or more
(`emptyLines_longest`).
-/

namespace FlowAudit.Rule

open FlowAudit.Source

/-! ### Longest runs -/

namespace BlankRun

variable {blank : Nat → Prop}

/-- The number of the line after a run. -/
def stop (run : BlankRun) : Nat := run.start + run.length

/-- The issue that a run gives. -/
def issue (run : BlankRun) : Issue where
  kind := .multipleEmptyLines
  message := "Multiple empty lines: " ++ (toString run.length ++ " consecutive empty lines")
  line := some run.start

/-- A run that cannot be made longer, where it is known which numbers are those of blank lines. -/
structure IsLongest (blank : Nat → Prop) (run : BlankRun) : Prop where
  nonempty : 1 ≤ run.length
  within : ∀ n, run.start ≤ n → n < run.stop → blank n
  before : ∀ n, n + 1 = run.start → ¬ blank n
  after : ¬ blank run.stop

namespace IsLongest

variable {run other : BlankRun}

theorem start_lt_stop (longest : run.IsLongest blank) : run.start < run.stop :=
  Nat.lt_add_of_pos_right longest.nonempty

/-- A longest run that ends where another one does begins no earlier. -/
theorem start_le_of_stop_eq (longest : run.IsLongest blank) (longest' : other.IsLongest blank)
    (same : run.stop = other.stop) : other.start ≤ run.start := by
  by_contra earlier
  have start := longest'.start_lt_stop
  obtain ⟨n, hn⟩ : ∃ n, n + 1 = other.start := ⟨other.start - 1, by omega⟩
  exact longest'.before n hn (longest.within n (by omega) (by omega))

theorem eq_of_stop_eq (longest : run.IsLongest blank) (longest' : other.IsLongest blank)
    (same : run.stop = other.stop) : run = other := by
  have start : run.start = other.start :=
    Nat.le_antisymm (longest'.start_le_of_stop_eq longest same.symm)
      (longest.start_le_of_stop_eq longest' same)
  have length : run.length = other.length := by
    simp only [stop] at same
    omega
  obtain ⟨_, _⟩ := run
  obtain ⟨_, _⟩ := other
  simp_all

/-- No run goes past a line that is not blank. -/
theorem lt_start_of_not_blank (longest : run.IsLongest blank) {n : Nat} (visible : ¬ blank n)
    (past : n < run.stop) : n < run.start := by
  by_contra started
  exact visible (longest.within n (by omega) past)

end IsLongest

end BlankRun

/-! ### Going along the lines -/

/-- What is open before the line with a number: the part of a longest run that lies before it, if the
line just before is blank. -/
def OpenAt (blank : Nat → Prop) (next : Nat) : Option BlankRun → Prop
  | none => ∀ n, n + 1 = next → ¬ blank n
  | some run => run.stop = next ∧ 1 ≤ run.length ∧ (∀ n, run.start ≤ n → n < next → blank n) ∧
      ∀ n, n + 1 = run.start → ¬ blank n

namespace OpenAt

variable {blank : Nat → Prop} {next : Nat} {open_ : Option BlankRun}

/-- After a blank line. -/
theorem extend (opened : OpenAt blank next open_) {line : Line} (number : line.number = next)
    (isBlank : blank next) : OpenAt blank (next + 1) (some (BlankRun.extend open_ line)) := by
  cases open_ with
  | none =>
      refine ⟨by simp [BlankRun.stop, BlankRun.extend, number], Nat.le_refl 1, ?_, ?_⟩
      · intro n from_ before
        simp only [BlankRun.extend, number] at from_
        obtain rfl : n = next := by omega
        exact isBlank
      · intro n first
        exact opened n (first.trans number)
  | some run =>
      obtain ⟨stop, nonempty, within, before⟩ := opened
      refine ⟨by simp only [BlankRun.stop, BlankRun.extend] at stop ⊢; omega, by
        simp [BlankRun.extend], ?_, before⟩
      intro n from_ upTo
      obtain earlier | rfl := Nat.lt_succ_iff_lt_or_eq.mp upTo
      · exact within n from_ earlier
      · exact isBlank

/-- At a line that is not blank, or after all lines, what is open is the one run that ends there. -/
theorem eq_some_iff (opened : OpenAt blank next open_) (visible : ¬ blank next) (run : BlankRun) :
    open_ = some run ↔ run.IsLongest blank ∧ run.stop = next := by
  cases open_ with
  | none =>
      simp only [reduceCtorEq, false_iff, not_and]
      intro longest stop
      have start := longest.start_lt_stop
      obtain ⟨n, hn⟩ : ∃ n, n + 1 = next := ⟨next - 1, by omega⟩
      exact opened n hn (longest.within n (by omega) (by omega))
  | some current =>
      obtain ⟨stop, nonempty, within, before⟩ := opened
      have longest : current.IsLongest blank :=
        ⟨nonempty, fun n from_ upTo => within n from_ (stop ▸ upTo), before, stop ▸ visible⟩
      rw [Option.some.injEq]
      constructor
      · rintro rfl
        exact ⟨longest, stop⟩
      · rintro ⟨longest', stop'⟩
        exact longest.eq_of_stop_eq longest' (stop.trans stop'.symm)

end OpenAt

/-- **The runs found from some line on** are the longest runs that do not end before it, in order and
apart from each other. -/
theorem blankRuns_longest {blank : Nat → Prop} {next : Nat} {lines : List Line}
    {open_ : Option BlankRun} (opened : OpenAt blank next open_)
    (numbers : lines.map Line.number = List.range' next lines.length)
    (blanks : ∀ line ∈ lines, blank line.number ↔ line.isBlank = true)
    (beyond : ∀ n, next + lines.length ≤ n → ¬ blank n) :
    (∀ run, run ∈ blankRuns open_ lines ↔ run.IsLongest blank ∧ next ≤ run.stop) ∧
      (blankRuns open_ lines).Pairwise fun a b => a.stop < b.start := by
  induction lines generalizing next open_ with
  | nil =>
      have visible : ¬ blank next := beyond next (by simp)
      refine ⟨fun run => ?_, ?_⟩
      · rw [blankRuns, Option.mem_toList, opened.eq_some_iff visible]
        refine and_congr_right fun longest => ⟨fun stop => Nat.le_of_eq stop.symm, fun stop => ?_⟩
        -- A run cannot end later, because there are no lines from here on.
        obtain same | later := Nat.eq_or_lt_of_le stop
        · exact same.symm
        · have start := longest.lt_start_of_not_blank visible later
          exact absurd (longest.within _ (Nat.le_refl _) longest.start_lt_stop)
            (beyond run.start (by simp; omega))
      · cases open_ <;> simp [blankRuns]
  | cons line rest ih =>
      simp only [List.map_cons, List.length_cons, List.range'_succ, List.cons.injEq] at numbers
      obtain ⟨number, numbers⟩ := numbers
      have isBlank := blanks line (List.mem_cons_self ..)
      rw [number] at isBlank
      have blanks' : ∀ other ∈ rest, blank other.number ↔ other.isBlank = true :=
        fun other member => blanks other (List.mem_cons_of_mem line member)
      have beyond' : ∀ n, next + 1 + rest.length ≤ n → ¬ blank n :=
        fun n after => beyond n (by rw [List.length_cons]; omega)
      rw [blankRuns]
      split
      · next blankLine =>
          have here : blank next := isBlank.mpr blankLine
          obtain ⟨members, apart⟩ := ih (opened.extend number here) numbers blanks' beyond'
          refine ⟨fun run => ?_, apart⟩
          rw [members]
          refine and_congr_right fun longest => ⟨fun stop => by omega, fun stop => ?_⟩
          -- No longest run ends before a blank line.
          obtain same | later := Nat.eq_or_lt_of_le stop
          · exact absurd (same ▸ here) longest.after
          · exact later
      · next visibleLine =>
          have visible : ¬ blank next := fun here => visibleLine (isBlank.mp here)
          have closed : OpenAt blank (next + 1) none := by
            intro n same
            obtain rfl : n = next := by omega
            exact visible
          obtain ⟨members, apart⟩ := ih closed numbers blanks' beyond'
          refine ⟨fun run => ?_, List.pairwise_append.mpr ⟨?_, apart, ?_⟩⟩
          · rw [List.mem_append, Option.mem_toList, opened.eq_some_iff visible, members, ← and_or_left]
            exact and_congr_right fun _ => by omega
          · cases open_ <;> simp
          · intro a ends b begins
            rw [Option.mem_toList, opened.eq_some_iff visible] at ends
            obtain ⟨longest, later⟩ := (members b).mp begins
            rw [ends.2]
            exact longest.lt_start_of_not_blank visible later

/-! ### Reports -/

/-- The line with a number is there, and it is blank. -/
def BlankAt (lines : List Line) (n : Nat) : Prop :=
  ∃ line ∈ lines, line.number = n ∧ line.isBlank = true

theorem maskSource_numbers (source : List Char) :
    (maskSource source).map Line.number = List.range' 1 (maskSource source).length := by
  rw [maskSource, maskLines_numbers, length_maskLines]

/-- A line is found by its number. -/
theorem blankAt_number_iff {source : List Char} {line : Line} (member : line ∈ maskSource source) :
    BlankAt (maskSource source) line.number ↔ line.isBlank = true := by
  have distinct : ((maskSource source).map Line.number).Nodup := by
    rw [maskSource_numbers]
    exact List.nodup_range'
  constructor
  · rintro ⟨other, member', same, blank⟩
    obtain rfl := List.inj_on_of_nodup_map distinct member' member same
    exact blank
  · intro blank
    exact ⟨line, member, rfl, blank⟩

theorem located_eq_issue (run : BlankRun) :
    Issue.located .multipleEmptyLines run.start
      (toString run.length ++ " consecutive empty lines") = run.issue := by
  simp [Issue.located, BlankRun.issue, Kind.headline]

/-- **Runs of empty lines are reported exactly.** The issues are those of runs of blank lines, in order.
The runs are the longest ones of two lines or more, those at the start and at the end of the source
among them, and between two of them there is a line that is not blank. -/
theorem emptyLines_longest (source : List Char) :
    ∃ runs : List BlankRun,
      multipleEmptyLines (maskSource source) = runs.map BlankRun.issue ∧
      (∀ run, run ∈ runs ↔ 2 ≤ run.length ∧ run.IsLongest (BlankAt (maskSource source))) ∧
      runs.Pairwise fun a b => ∃ line ∈ maskSource source,
        line.isBlank = false ∧ a.stop ≤ line.number ∧ line.number < b.start := by
  have none_ : ∀ n, n < 1 ∨ 1 + (maskSource source).length ≤ n → ¬ BlankAt (maskSource source) n := by
    rintro n outside ⟨line, member, rfl, -⟩
    have inside := number_of_mem_maskSource member
    omega
  have opened : OpenAt (BlankAt (maskSource source)) 1 none :=
    fun n first => none_ n (Or.inl (by omega))
  obtain ⟨members, apart⟩ := blankRuns_longest opened (maskSource_numbers source)
    (fun line member => blankAt_number_iff member) (fun n beyond => none_ n (Or.inr beyond))
  refine ⟨(blankRuns none (maskSource source)).filter fun run => shortestRun ≤ run.length, ?_, ?_, ?_⟩
  · rw [multipleEmptyLines]
    exact List.map_congr_left fun run _ => located_eq_issue run
  · intro run
    rw [List.mem_filter, members, decide_eq_true_eq]
    constructor
    · rintro ⟨⟨longest, -⟩, long⟩
      exact ⟨long, longest⟩
    · rintro ⟨long, longest⟩
      have start := longest.start_lt_stop
      exact ⟨⟨longest, by omega⟩, long⟩
  · refine (apart.filter _).imp_of_mem fun {a b} ha hb between => ?_
    obtain ⟨longest, -⟩ := (members a).mp (List.mem_of_mem_filter ha)
    obtain ⟨longest', -⟩ := (members b).mp (List.mem_of_mem_filter hb)
    -- The line after the first run comes before a line of the source, so it is there.
    obtain ⟨first, member, number, -⟩ := longest'.within b.start (Nat.le_refl _) longest'.start_lt_stop
    have inside := number_of_mem_maskSource member
    have begun := longest.start_lt_stop
    have numbered : a.stop ∈ (maskSource source).map Line.number := by
      rw [maskSource_numbers, List.mem_range'_1]
      omega
    obtain ⟨line, member', at_⟩ := List.mem_map.mp numbered
    refine ⟨line, member', ?_, Nat.le_of_eq at_.symm, at_ ▸ between⟩
    rw [← Bool.not_eq_true, ← blankAt_number_iff member', at_]
    exact longest.after

/-- Runs at both ends, a single blank line between them, and blanks that are no line breaks. -/
example :
    (multipleEmptyLines (maskSource "\n\na();\n\nb();\n \n\t\n\n".toList)).map Issue.line =
      [some 1, some 6] := by decide +kernel

end FlowAudit.Rule
