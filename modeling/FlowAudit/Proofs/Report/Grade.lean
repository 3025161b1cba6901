import FlowAudit.Proofs.Number.Comparison
import FlowAudit.Proofs.Report.Summary
import FlowAudit.Report.Unit

/-!
# FlowAudit.Proofs.Report.Grade

**The grades of a summary are those of the scores before rounding** (`Store.qualitySummary_grades`). A
summary shows scores with two places and grades the scores that it rounds. With descending bands the grade
is that of the score shown unless a bound lies between the two, so that only one of them reaches it
(`GradeBands.grade_eq_iff`). Over exact fractions such a bound is within half a hundredth of the score
(`GradeBands.near_of_separates`), and records that a scan made have scores that rounding leaves alone.

The report of a group and the analysis of a unit grade what they show. In a summary the two can differ: a
mean just short of a bound is shown as the bound and has the grade below it
(`Store.qualitySummary_grade_differs`).
-/

namespace FlowAudit

open Scalar

variable {ρ ν : Type} [Scalar ν]

/-! ### Grades and bounds -/

namespace GradeBands

variable {bands : GradeBands ν}

/-- The bounds, from the best grade on. -/
def bounds (bands : GradeBands ν) : List ν :=
  [bands.a, bands.b, bands.c, bands.d]

/-- One of two scores reaches a bound that the other does not reach. -/
def Separates (bands : GradeBands ν) (x y : ν) : Prop :=
  ∃ bound ∈ bands.bounds, le bound x ≠ le bound y

/-- With descending bounds the grades are intervals: a score reaches a bound exactly if its grade is that
of the bound or a better one. -/
structure Stepwise (bands : GradeBands ν) (x : ν) : Prop where
  a : le bands.a x = decide ((bands.grade x).rank ≤ 0)
  b : le bands.b x = decide ((bands.grade x).rank ≤ 1)
  c : le bands.c x = decide ((bands.grade x).rank ≤ 2)
  d : le bands.d x = decide ((bands.grade x).rank ≤ 3)

theorem stepwise_of_isDescending [Ordered ν] (descending : bands.isDescending) (x : ν) :
    bands.Stepwise x := by
  unfold isDescending at descending
  rw [Bool.and_eq_true, Bool.and_eq_true] at descending
  obtain ⟨⟨ab, bc⟩, cd⟩ := descending
  have b_of_a (reached : le bands.a x) : le bands.b x := Ordered.le_trans (Ordered.le_of_lt ab) reached
  have c_of_b (reached : le bands.b x) : le bands.c x := Ordered.le_trans (Ordered.le_of_lt bc) reached
  have d_of_c (reached : le bands.c x) : le bands.d x := Ordered.le_trans (Ordered.le_of_lt cd) reached
  -- The first bound that is reached, from the best on; all after it are reached too.
  by_cases a : le bands.a x
  · have b := b_of_a a
    have c := c_of_b b
    constructor <;> simp [grade, Grade.rank, a, b, c, d_of_c c]
  by_cases b : le bands.b x
  · have c := c_of_b b
    constructor <;> simp [grade, Grade.rank, a, b, c, d_of_c c]
  by_cases c : le bands.c x
  · constructor <;> simp [grade, Grade.rank, a, b, c, d_of_c c]
  by_cases d : le bands.d x <;> constructor <;> simp [grade, Grade.rank, a, b, c, d]

/-- **Scores have different grades exactly if a bound separates them.** -/
theorem grade_eq_iff [Ordered ν] (descending : bands.isDescending) (x y : ν) :
    bands.grade x = bands.grade y ↔ ¬ bands.Separates x y := by
  have first := stepwise_of_isDescending descending x
  have second := stepwise_of_isDescending descending y
  constructor
  · rintro same ⟨bound, member, differs⟩
    simp only [bounds, List.mem_cons, List.not_mem_nil, or_false] at member
    rcases member with rfl | rfl | rfl | rfl
    · exact differs (by rw [first.a, second.a, same])
    · exact differs (by rw [first.b, second.b, same])
    · exact differs (by rw [first.c, second.c, same])
    · exact differs (by rw [first.d, second.d, same])
  · intro apart
    have alike (bound : ν) (member : bound ∈ bands.bounds) : le bound x = le bound y := by
      by_contra differs
      exact apart ⟨bound, member, differs⟩
    unfold grade
    rw [alike bands.a (by simp [bounds]), alike bands.b (by simp [bounds]),
      alike bands.c (by simp [bounds]), alike bands.d (by simp [bounds])]

/-- A bound between a score and its two places is within half a hundredth of the score. -/
theorem near_of_separates {bands : GradeBands ℚ} {x : ℚ} (apart : bands.Separates x (round2 x)) :
    ∃ bound ∈ bands.bounds, |bound - x| ≤ 1 / 200 := by
  obtain ⟨bound, member, differs⟩ := apart
  refine ⟨bound, member, ?_⟩
  have near := abs_le.mp (abs_round2_sub_le x)
  have differs : ¬ (bound ≤ x ↔ bound ≤ round2 x) := fun same => differs (decide_eq_decide.mpr same)
  rw [abs_le]
  by_cases reached : bound ≤ x
  · have short : round2 x < bound := not_le.mp fun other => differs (iff_of_true reached other)
    constructor <;> linarith [near.1]
  · have other : bound ≤ round2 x := by
      by_contra short
      exact differs (iff_of_false reached short)
    constructor <;> linarith [near.2, not_le.mp reached]

end GradeBands

/-! ### Scores that are shown -/

/-- What a summary says of a score: it shows two places of it and grades all of it. -/
structure GradedBy (bands : GradeBands ν) (exact shown : ν) (grade : Grade) : Prop where
  shown_eq : shown = round2 exact
  grade_eq : grade = bands.grade exact
  /-- The grade is that of the score shown unless a bound separates the two. -/
  agrees_iff : bands.isDescending → (grade = bands.grade shown ↔ ¬ bands.Separates exact shown)

theorem gradedBy_round2 [Ordered ν] (bands : GradeBands ν) (exact : ν) :
    GradedBy bands exact (round2 exact) (bands.grade exact) :=
  ⟨rfl, rfl, fun descending => GradeBands.grade_eq_iff descending _ _⟩

/-- Records of a scan have scores that rounding leaves alone. -/
theorem round2_of_aggregateGroup {id name : String} {units : List (UnitRecord ℚ)} {now : Instant}
    {record : GroupRecord ℚ} (made : aggregateGroup id name units now = some record) :
    round2 record.qualityScore = record.qualityScore := by
  obtain ⟨-, -, quality, -⟩ := scores_of_aggregateGroup made
  rw [quality]
  rcases max_choice 0 (round2 (cappedQuality units)) with low | rounded
  · rw [low]
    exact_mod_cast round2_natCast 0
  · rw [rounded, round2_round2]

namespace Store

variable [Stored ρ (GroupRecord ν)]

/-- A report of a group grades the score that it shows. -/
theorem grade_of_groupDetail [Stored ρ (UnitRecord ν)] {bands : GradeBands ν} {store : Store ρ}
    {id : String} {detail : GroupDetail ν}
    (answered : ((groupDetail id bands).run.run store).1 = .ok (some detail)) :
    detail.grade = bands.grade detail.qualityScore := by
  unfold groupDetail at answered
  obtain ⟨found, after, -, answered⟩ := ok_of_run_bind answered
  cases found with
  | none => cases answered
  | some group =>
      obtain ⟨units, after, -, answered⟩ := ok_of_run_bind answered
      cases answered
      rfl

/-- **A summary grades the scores that it rounds**, the mean and that of every group; so its grades are
those of the scores shown exactly where no bound lies between a score and its two places. Over exact
fractions that takes a bound within half a hundredth, and never happens to the groups of a scan. The other
reports grade the score that they show. -/
theorem qualitySummary_grades [Ordered ν] (bands : GradeBands ν) {store : Store ρ}
    {records : List (GroupRecord ν)} (shows : store.Shows .groups records) :
    (∃ latest summary, (qualitySummary bands).run.run store = (.ok summary, store.touched) ∧
      summary.Of bands records latest ∧
      GradedBy bands (averageScore latest) summary.overview.averageScore summary.overview.grade ∧
      List.Forall₂ (fun record row => GradedBy bands record.qualityScore row.qualityScore row.grade)
        latest summary.groups) ∧
    (∀ (exactBands : GradeBands ℚ) (x : ℚ), exactBands.Separates x (round2 x) →
      ∃ bound ∈ exactBands.bounds, |bound - x| ≤ 1 / 200) ∧
    (∀ id name units now (record : GroupRecord ℚ), aggregateGroup id name units now = some record →
      round2 record.qualityScore = record.qualityScore) ∧
    (∀ [Stored ρ (UnitRecord ν)] id detail,
      ((groupDetail id bands).run.run store).1 = .ok (some detail) →
        detail.grade = bands.grade detail.qualityScore) ∧
    ∀ (unit : SourceUnit) now,
      (unit.analysis bands now).grade = bands.grade (unit.analysis bands now).qualityScore := by
  have made := of_ofGroups bands records
  refine ⟨⟨_, _, shows.run_qualitySummary bands, made, gradedBy_round2 _ _,
      made.shows.imp fun record row same => ?_⟩,
    fun _ _ => GradeBands.near_of_separates, fun _ _ _ _ _ => round2_of_aggregateGroup,
    fun _ _ => grade_of_groupDetail, fun _ _ => rfl⟩
  rw [same.qualityScore, same.grade]
  exact gradedBy_round2 bands record.qualityScore

/-- The bounds used where none are set, as programs have them. -/
def floatBands : GradeBands Float := .standard

/-- A group of one unit with a score. -/
def scoredGroup (id : String) (score : Float) : GroupRecord Float where
  id
  name := id
  totalIssues := 1
  nodesWithIssues := 1
  nodesWithCriticalIssues := 0
  totalUnits := 1
  issueTypes := [(.consoleLog, 1)]
  qualityScore := score
  complexityScore := 1
  createdAt := .onDay 0 0 0

/-- A store with records of groups. -/
def storeOf (records : List (GroupRecord Float)) : Store (UnitRecord Float ⊕ GroupRecord Float) :=
  ({ keys := .counting } : Store _).afterInserts .groups records

/-- Groups as a scan makes them, whose mean is just short of ninety. -/
def closeGroups : List (GroupRecord Float) :=
  [scoredGroup "f" 90.02, scoredGroup "g" 90.01, scoredGroup "h" 89.96]

/-- A group whose score has three places. -/
def preciseGroups : List (GroupRecord Float) :=
  [scoredGroup "f" 89.996]

/-- The summary of a store whose mean is separated from its two places by the bound of the best grade; a
score with three places that is, too; a record of a scan; and the report of a group. -/
theorem qualitySummary_grades_close :
    (storeOf closeGroups).Shows .groups closeGroups ∧
    (∃ latest summary, (qualitySummary floatBands).run.run (storeOf closeGroups) =
        (.ok summary, (storeOf closeGroups).touched) ∧
      summary.Of floatBands closeGroups latest ∧
      GradedBy floatBands (averageScore latest) summary.overview.averageScore summary.overview.grade ∧
      List.Forall₂ (fun record row => GradedBy floatBands record.qualityScore row.qualityScore row.grade)
        latest summary.groups) ∧
    floatBands.isDescending ∧
    floatBands.Separates (averageScore closeGroups) (round2 (averageScore closeGroups)) ∧
    (∃ bound ∈ (GradeBands.standard : GradeBands ℚ).bounds, |bound - 22499 / 250| ≤ 1 / 200) ∧
    (∀ record, aggregateGroup "f" "f" [unitIn "f" "x" 0] (.onDay 0 0 0) = some record →
      round2 record.qualityScore = record.qualityScore) ∧
    ∃ detail, ((groupDetail "f" floatBands).run.run (storeOf closeGroups)).1 = .ok (some detail) ∧
      detail.grade = floatBands.grade detail.qualityScore := by
  have shows : (storeOf closeGroups).Shows .groups closeGroups := ⟨rfl, hold_of_readRows rfl⟩
  obtain ⟨summary, near, kept, reports, -⟩ := qualitySummary_grades floatBands shows
  have apart : (GradeBands.standard : GradeBands ℚ).Separates (22499 / 250) (round2 (22499 / 250)) :=
    ⟨90, by decide +kernel, by decide +kernel⟩
  have detail : ((groupDetail "f" floatBands).run.run (storeOf closeGroups)).1 =
      .ok (some (.ofRecords floatBands (scoredGroup "f" 90.02) ([] : List (UnitRecord Float)))) := rfl
  exact ⟨shows, summary, by decide +kernel, ⟨floatBands.a, List.mem_cons_self, by decide +kernel⟩,
    near _ _ apart, kept _ _ _ _, _, detail, reports _ _ detail⟩

omit [Scalar ν] in
/-- Records that are in order already are listed as they are. -/
theorem listed_eq {records : List (GroupRecord ν)} (latest : latestBy GroupRecord.id records = records)
    (byName : records.Pairwise fun a b => a.before b) (byTime : records.Pairwise fun a b => a.newer b) :
    newestThenName (latestByName records) = records := by
  have named : latestByName records = records := by
    unfold latestByName
    rw [latest]
    exact List.mergeSort_of_pairwise byName
  rw [named]
  exact List.mergeSort_of_pairwise byTime

/-- **A summary shows ninety and gives the second grade**, although the first begins at ninety: for the mean
of groups as a scan makes them, and for the score of a group with three places. -/
theorem qualitySummary_grade_differs :
    floatBands.isDescending ∧ floatBands.grade 90 = .a ∧
    (storeOf closeGroups).Shows .groups closeGroups ∧
    (∃ summary, ((qualitySummary floatBands).run.run (storeOf closeGroups)).1 = .ok summary ∧
      summary.overview.averageScore = 90 ∧ summary.overview.grade = .b) ∧
    (storeOf preciseGroups).Shows .groups preciseGroups ∧
    ∃ summary, ((qualitySummary floatBands).run.run (storeOf preciseGroups)).1 = .ok summary ∧
      ∃ row ∈ summary.groups, row.qualityScore = 90 ∧ row.grade = .b := by
  have close : (storeOf closeGroups).Shows .groups closeGroups := ⟨rfl, hold_of_readRows rfl⟩
  have precise : (storeOf preciseGroups).Shows .groups preciseGroups := ⟨rfl, hold_of_readRows rfl⟩
  have listed : newestThenName (latestByName closeGroups) = closeGroups :=
    listed_eq rfl (by decide) (by decide)
  have single : newestThenName (latestByName preciseGroups) = preciseGroups :=
    listed_eq rfl (by decide) (by decide)
  refine ⟨by decide +kernel, by decide +kernel, close,
    ⟨_, congrArg Prod.fst (close.run_qualitySummary floatBands), ?_, ?_⟩,
    precise, _, congrArg Prod.fst (precise.run_qualitySummary floatBands), ?_⟩
  · show round2 (averageScore (newestThenName (latestByName closeGroups))) = 90
    rw [listed]
    decide +kernel
  · show floatBands.grade (averageScore (newestThenName (latestByName closeGroups))) = .b
    rw [listed]
    decide +kernel
  · refine ⟨.ofRecord floatBands (scoredGroup "f" 89.996), ?_, by decide +kernel, by decide +kernel⟩
    show _ ∈ (newestThenName (latestByName preciseGroups)).map (GroupRow.ofRecord floatBands)
    rw [single]
    exact List.mem_singleton_self _

end Store

end FlowAudit
