import FlowAudit.Proofs.Render.Escape
import FlowAudit.Render.Activity
import FlowAudit.Render.Format
import FlowAudit.Render.Health
import FlowAudit.Render.Quality

/-!
# FlowAudit.Proofs.Render.Colors

**Colours only add escape sequences.** A page written in colour is stripped back to the plain one as
soon as none of its pieces has an escape character of its own, so this is a matter of the texts on the
page (`colorsOnlyAdd_of_escapeFree`). Of each kind of report it is shown, section by section, that no
piece of its page has one where the texts have none that the report takes over from elsewhere (`texts`).
The program's own words are evaluated (`simp +decide`).
-/

namespace FlowAudit.Render

/-! ### Marks -/

@[simp] theorem escapeFree_trendPiece (trend : Trend) : EscapeFree (trendPiece trend).text := by
  cases trend <;> exact escapeFree_ofList.mpr (by decide)

@[simp] theorem escapeFree_badge (color : BadgeColor) : EscapeFree (badge color).text := by
  cases color <;> exact escapeFree_ofList.mpr (by decide)

/-! ### Reports -/

/-- The texts that a report takes over from elsewhere and shows: names, ids, paths and messages.
Every other word on its page is one of the program's own, a number or a time. -/
class HasTexts (α : Type) where
  texts : α → List String

export HasTexts (texts)

instance : HasTexts (QualitySummary Float) where
  texts s := s.groups.flatMap fun row => [row.name, row.id]

instance : HasTexts (QualityHistory Float) where
  texts _ := []

instance : HasTexts (GroupDetail Float) where
  texts g := g.name :: g.units.flatMap fun unit =>
    unit.name :: unit.id :: unit.issues.map IssueView.message

instance : HasTexts (UnitAnalysis Float) where
  texts u := u.name :: u.status.text :: u.issues.map IssueView.message

instance : HasTexts (PerformanceSummary Float) where
  texts _ := []

instance : HasTexts (PerformanceHistory Float) where
  texts _ := []

instance : HasTexts (AlertListing Float) where
  texts _ := []

instance : HasTexts StoreStatus where
  texts s := s.database.toList ++ s.problems

instance : HasTexts PruneCounts where
  texts _ := []

instance : HasTexts (ScanView Float) where
  texts s := (s.units.flatMap fun unit => [unit.name, unit.status.text])
    ++ s.failedUnits.flatMap fun unit => [unit.id, unit.reason]

instance : HasTexts (TickView Float) where
  texts _ := []

/-- Colours only add escape sequences to reports of this kind: where the texts that a report takes
over have none of their own, what is left of the coloured report without them is the plain one. -/
def ColorsOnlyAdd (α : Type) [ToPage α] [HasTexts α] : Prop :=
  ∀ report : α, (∀ text ∈ texts report, EscapeFree text) →
    stripped (renderText true report) = renderText false report

theorem colorsOnlyAdd_of_escapeFree {α : Type} [ToPage α] [HasTexts α]
    (pages : ∀ report : α, (∀ text ∈ texts report, EscapeFree text) → (page report).EscapeFree) :
    ColorsOnlyAdd α := fun report ordinary => stripped_colored (pages report ordinary)

theorem escapeFree_qualitySummary {s : QualitySummary Float}
    (ordinary : ∀ text ∈ texts s, EscapeFree text) : (page s).EscapeFree := by
  have rows : Page.EscapeFree (s.groups.flatMap groupRowLine) := by
    refine Page.escapeFree_flatMap fun row among => ?_
    have own := List.forall_mem_flatMap.mp ordinary row among
    simp only [List.forall_mem_cons] at own
    obtain ⟨name, id, -⟩ := own
    simp +decide [groupRowLine, name, id]
  simp +decide [page, rows]

theorem escapeFree_qualityHistory (h : QualityHistory Float) : (page h).EscapeFree := by
  have points : Page.EscapeFree (h.points.flatMap historyLine) :=
    Page.escapeFree_flatMap fun point _ => by simp +decide [historyLine]
  simp +decide [page, points]

theorem escapeFree_groupDetail {g : GroupDetail Float}
    (ordinary : ∀ text ∈ texts g, EscapeFree text) : (page g).EscapeFree := by
  obtain ⟨name, others⟩ := List.forall_mem_cons.mp ordinary
  have kinds : Page.EscapeFree (g.issueTypes.flatMap kindCountLine) :=
    Page.escapeFree_flatMap fun entry _ => by simp +decide [kindCountLine]
  have units : Page.EscapeFree (g.units.flatMap unitDetailLines) := by
    refine Page.escapeFree_flatMap fun unit among => ?_
    have own := List.forall_mem_flatMap.mp others unit among
    simp only [List.forall_mem_cons, List.forall_mem_map] at own
    obtain ⟨unitName, id, messages⟩ := own
    have issues := escapeFree_issueLines "    " (escapeFree_ofList.mpr (by decide)) messages
    simp +decide [unitDetailLines, unitName, id, issues]
  simp +decide [page, name, kinds, units]

theorem escapeFree_unitAnalysis {u : UnitAnalysis Float}
    (ordinary : ∀ text ∈ texts u, EscapeFree text) : (page u).EscapeFree := by
  have own : ∀ text ∈ u.name :: u.status.text :: u.issues.map IssueView.message,
      EscapeFree text := ordinary
  simp only [List.forall_mem_cons, List.forall_mem_map] at own
  obtain ⟨name, status, messages⟩ := own
  have issues := escapeFree_issueLines "  " (escapeFree_ofList.mpr (by decide)) messages
  have statusLine : (statusLine u.status).EscapeFree := by
    unfold statusLine
    cases u.status.color <;> simp +decide [status]
  simp +decide [page, name, statusLine, issues]

theorem escapeFree_performanceSummary (s : PerformanceSummary Float) : (page s).EscapeFree := by
  have monitoring : (monitoringLine s.settings).EscapeFree := by
    cases watched : s.settings.enabled <;> simp +decide [monitoringLine, watched]
  have current : (currentLine s.current).EscapeFree := by
    cases s.current <;> simp +decide [currentLine]
  have covered : Page.EscapeFree (coveredPieces s.statistics) := by
    unfold coveredPieces
    split <;> simp +decide
  have alerts := escapeFree_alertLines s.recentAlerts
  simp +decide [page, monitoring, current, covered, alerts]

theorem escapeFree_performanceHistory (h : PerformanceHistory Float) : (page h).EscapeFree := by
  have samples : Page.EscapeFree (h.samples.flatMap sampleLine) :=
    Page.escapeFree_flatMap fun sample _ => by simp +decide [sampleLine]
  simp +decide [page, samples]

theorem escapeFree_alertListing (listing : AlertListing Float) : (page listing).EscapeFree := by
  have alerts := escapeFree_alertLines listing.alerts
  simp +decide [page, alerts]

theorem escapeFree_storeStatus {s : StoreStatus}
    (ordinary : ∀ text ∈ texts s, EscapeFree text) : (page s).EscapeFree := by
  obtain ⟨paths, listed⟩ := List.forall_mem_append.mp ordinary
  have problems : Page.EscapeFree (s.problems.flatMap problemLine) :=
    Page.escapeFree_flatMap fun problem member => by
      simp +decide [problemLine, listed problem member]
  dsimp only [page]
  split
  case h_1 path location =>
    have database : EscapeFree path := paths path (by simp [location])
    simp +decide [database, problems]
  case h_2 => simp +decide [problems]

theorem escapeFree_pruneCounts (counts : PruneCounts) : (page counts).EscapeFree := by
  simp +decide [page]

theorem escapeFree_scanView {s : ScanView Float}
    (ordinary : ∀ text ∈ texts s, EscapeFree text) : (page s).EscapeFree := by
  obtain ⟨ofUnits, ofFailures⟩ := List.forall_mem_append.mp ordinary
  have units : Page.EscapeFree (s.units.flatMap scannedUnitLine) := by
    refine Page.escapeFree_flatMap fun unit among => ?_
    have own := List.forall_mem_flatMap.mp ofUnits unit among
    simp only [List.forall_mem_cons] at own
    obtain ⟨name, status, -⟩ := own
    simp +decide [scannedUnitLine, name, status]
  have failures : Page.EscapeFree (s.failedUnits.flatMap fun unit =>
      line ["  ", red "[!!]", " ", unit.id, ": ", unit.reason]) := by
    refine Page.escapeFree_flatMap fun unit among => ?_
    have own := List.forall_mem_flatMap.mp ofFailures unit among
    simp only [List.forall_mem_cons] at own
    obtain ⟨id, reason, -⟩ := own
    simp +decide [id, reason]
  simp +decide [page, units, failures]

theorem escapeFree_tickView (t : TickView Float) : (page t).EscapeFree := by
  have sample : Page.EscapeFree (tickSample t.tick t.sample) := by
    cases t.sample <;> simp +decide [tickSample, tickNumber]
  have alerts : Page.EscapeFree (t.alerts.flatMap tickAlert) :=
    Page.escapeFree_flatMap fun alert _ => by simp +decide [tickAlert]
  have pruned : Page.EscapeFree (tickPruned t.pruned) := by
    cases t.pruned <;> simp +decide [tickPruned]
  simp [page, sample, alerts, pruned]

/-- Colours only add escape sequences, to every kind of report. -/
theorem colors_only_add :
    ColorsOnlyAdd (QualitySummary Float) ∧ ColorsOnlyAdd (QualityHistory Float)
      ∧ ColorsOnlyAdd (GroupDetail Float) ∧ ColorsOnlyAdd (UnitAnalysis Float)
      ∧ ColorsOnlyAdd (PerformanceSummary Float) ∧ ColorsOnlyAdd (PerformanceHistory Float)
      ∧ ColorsOnlyAdd (AlertListing Float) ∧ ColorsOnlyAdd StoreStatus
      ∧ ColorsOnlyAdd PruneCounts ∧ ColorsOnlyAdd (ScanView Float)
      ∧ ColorsOnlyAdd (TickView Float) := by
  refine ⟨?quality, ?hours, ?group, ?unit, ?performance, ?samples, ?alerts, ?store, ?prune, ?scan,
    ?tick⟩
  case quality => exact colorsOnlyAdd_of_escapeFree fun _ => escapeFree_qualitySummary
  case hours => exact colorsOnlyAdd_of_escapeFree fun h _ => escapeFree_qualityHistory h
  case group => exact colorsOnlyAdd_of_escapeFree fun _ => escapeFree_groupDetail
  case unit => exact colorsOnlyAdd_of_escapeFree fun _ => escapeFree_unitAnalysis
  case performance => exact colorsOnlyAdd_of_escapeFree fun s _ => escapeFree_performanceSummary s
  case samples => exact colorsOnlyAdd_of_escapeFree fun h _ => escapeFree_performanceHistory h
  case alerts => exact colorsOnlyAdd_of_escapeFree fun l _ => escapeFree_alertListing l
  case store => exact colorsOnlyAdd_of_escapeFree fun _ => escapeFree_storeStatus
  case prune => exact colorsOnlyAdd_of_escapeFree fun c _ => escapeFree_pruneCounts c
  case scan => exact colorsOnlyAdd_of_escapeFree fun _ => escapeFree_scanView
  case tick => exact colorsOnlyAdd_of_escapeFree fun t _ => escapeFree_tickView t

/-- A store in a file, with one problem in its settings. -/
def storeWithProblem : StoreStatus where
  database := some "flows.db"
  counts := .fill 3
  problems := ["retention_days must be positive"]

theorem colors_only_add_store :
    (∀ text ∈ texts storeWithProblem, EscapeFree text)
      ∧ renderText true storeWithProblem ≠ renderText false storeWithProblem
      ∧ stripped (renderText true storeWithProblem) = renderText false storeWithProblem := by
  obtain ⟨-, -, -, -, -, -, -, stores, -⟩ := colors_only_add
  have ordinary : ∀ text ∈ texts storeWithProblem, EscapeFree text := by decide +kernel
  exact ⟨ordinary, by decide +kernel, stores storeWithProblem ordinary⟩

end FlowAudit.Render
