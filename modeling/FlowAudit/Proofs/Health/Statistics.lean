import FlowAudit.Proofs.Log.Samples
import FlowAudit.Proofs.Number.Exact
import FlowAudit.Report.Performance

/-!
# FlowAudit.Proofs.Health.Statistics

**The statistics of a store are those of all its samples.** A store is only asked for the samples of a
window, and the walk back through them stops early. Where the samples are in the order of time, the
means, checks and trends are nevertheless the same as if they were taken over everything that is
stored (`Store.readsWhole_of_sampleLog`).

The summary takes its means over ten minutes from the samples of an hour; that an hour reaches back
further than ten minutes is only true within the calendar.
-/

namespace FlowAudit

variable {ρ ν α β : Type}

/-! ### Windows of windows -/

section Windows

variable [Scalar ν] {samples : List (Sample ν)} {long short : Span} {now : Instant}

theorem averages_inWindow (order : InOrder samples)
    (longer : now.windowStart long ≤ now.windowStart short) :
    averages (inWindow samples long now) short now = averages samples short now := by
  unfold averages
  rw [inWindow_inWindow order longer]

theorem sustained_inWindow (order : InOrder samples)
    (longer : now.windowStart long ≤ now.windowStart short) (metric : Metric) (threshold : ν) :
    sustained (inWindow samples long now) metric threshold short now =
      sustained samples metric threshold short now := by
  unfold sustained
  rw [inWindow_inWindow order longer]

theorem trend_inWindow (order : InOrder samples)
    (longer : now.windowStart long ≤ now.windowStart short) (metric : Metric) :
    trend (inWindow samples long now) metric short now = trend samples metric short now := by
  unfold trend
  rw [inWindow_inWindow order longer]

/-- A metric never stays over its threshold during a window that ends before it begins. -/
theorem sustained_of_lt {window : Span} (never : now < now.windowStart window) (metric : Metric)
    (threshold : ν) : (sustained samples metric threshold window now).sustained = false := by
  have empty : inWindow samples window now = [] := by
    have outside : samples.filter (fun s => s.timestamp.between (now.windowStart window) now) = [] := by
      rw [List.filter_eq_nil_iff]
      intro s _ within
      rw [Instant.between_iff] at within
      exact Instant.not_lt.mpr (Instant.le_trans within.1 within.2) never
    rw [inWindow, outside, List.mergeSort_nil]
  unfold sustained
  rw [empty]
  rfl

end Windows

/-- The window of trends holds the window of means. -/
theorem trendWindow_le_averageWindow {now : Instant} (calendar : now.InCalendar) :
    now.windowStart trendWindow ≤ now.windowStart averageWindow :=
  Instant.windowStart_le_windowStart (Instant.le_refl now) calendar (by decide) (by decide)
    (Or.inr (by decide))

namespace Store

/-! ### Statistics over a store -/

/-- A store that refuses nothing. -/
def Willing (store : Store ρ) : Prop :=
  ∀ before kind table, store.refuses before kind table = false

theorem Willing.accepts {store : Store ρ} (willing : store.Willing) (before : Nat) (kind : Access)
    (table : Table) : ¬ store.refuses before kind table := by
  rw [willing before kind table]
  exact Bool.false_ne_true

theorem Willing.touched {store : Store ρ} (willing : store.Willing) : store.touched.Willing :=
  willing

theorem sampleAnswer_of_willing {store : Store ρ} (willing : store.Willing) (a : α) :
    store.sampleAnswer a = (.ok a, store.touched) := by
  unfold sampleAnswer
  rw [if_neg (willing.accepts _ _ _)]

theorem eq_of_sampleAnswer {store after : Store ρ} {a b : α}
    (answered : store.sampleAnswer a = (.ok b, after)) : b = a := by
  unfold sampleAnswer at answered
  by_cases refused : store.refuses store.accesses .read .samples
  · rw [if_pos refused] at answered
    cases answered
  · rw [if_neg refused] at answered
    cases answered
    rfl

variable [Stored ρ (Sample ν)] {store : Store ρ} {samples : List (Sample ν)}

theorem SampleLog.run_windowSamples (log : store.SampleLog samples) (window : Span) (now : Instant) :
    (windowSamples window now).run.run store = store.sampleAnswer (inWindow samples window now) :=
  log.run_samplesBetween _ _

variable [Scalar ν]

theorem SampleLog.run_averages (log : store.SampleLog samples) (window : Span) (now : Instant) :
    (Store.averages window now).run.run store =
      store.sampleAnswer (FlowAudit.averages samples window now) := by
  have same := averages_inWindow log.inOrder (Instant.le_refl (now.windowStart window))
  rw [← same]
  exact run_map_of_answer (log.run_windowSamples window now) _

theorem SampleLog.run_sustained (log : store.SampleLog samples) (metric : Metric) (threshold : ν)
    (window : Span) (now : Instant) :
    (Store.sustained metric threshold window now).run.run store =
      store.sampleAnswer (FlowAudit.sustained samples metric threshold window now) := by
  have same := sustained_inWindow log.inOrder (Instant.le_refl (now.windowStart window)) metric
    threshold
  rw [← same]
  exact run_map_of_answer (log.run_windowSamples window now) _

theorem SampleLog.run_trend (log : store.SampleLog samples) (metric : Metric) (window : Span)
    (now : Instant) :
    (Store.trend ν metric window now).run.run store =
      store.sampleAnswer (FlowAudit.trend samples metric window now) := by
  have same := trend_inWindow log.inOrder (Instant.le_refl (now.windowStart window)) metric
  rw [← same]
  exact run_map_of_answer (log.run_windowSamples window now) _

/-! ### The summary -/

theorem ok_of_run_bind {action : StoreM ρ α} {next : α → StoreM ρ β} {b : β}
    (ok : ((action >>= next).run.run store).1 = .ok b) :
    ∃ a after, action.run.run store = (.ok a, after) ∧ ((next a).run.run after).1 = .ok b := by
  rw [run_bind] at ok
  rcases first : action.run.run store with ⟨_ | a, after⟩
  · rw [first] at ok
    cases ok
  · rw [first] at ok
    exact ⟨a, after, rfl, ok⟩

/-- What a summary says is said of all samples, if there is a summary. -/
theorem SampleLog.performanceSummary_ok [Stored ρ (Alert ν)] (log : store.SampleLog samples)
    {now : Instant} (calendar : now.InCalendar) {settings : Settings ν}
    {summary : PerformanceSummary ν}
    (ok : ((performanceSummary settings now).run.run store).1 = .ok summary) :
    summary.averages = (FlowAudit.averages samples averageWindow now).map Scalar.round2 ∧
      summary.trends = .tabulate fun metric => FlowAudit.trend samples metric trendWindow now := by
  unfold performanceSummary at ok
  obtain ⟨recent, after, read, ok⟩ := ok_of_run_bind ok
  obtain ⟨all, after, -, ok⟩ := ok_of_run_bind ok
  obtain ⟨current, after, -, ok⟩ := ok_of_run_bind ok
  obtain ⟨alerts, after, -, ok⟩ := ok_of_run_bind ok
  rw [log.run_windowSamples] at read
  cases ok
  rw [eq_of_sampleAnswer read]
  have trends : (fun metric => FlowAudit.trend (inWindow samples trendWindow now) metric trendWindow
      now) = fun metric => FlowAudit.trend samples metric trendWindow now := by
    funext metric
    exact trend_inWindow log.inOrder (Instant.le_refl _) metric
  rw [averages_inWindow log.inOrder (trendWindow_le_averageWindow calendar), trends]
  exact ⟨rfl, rfl⟩

theorem run_newest_of_willing [Stored ρ α] (willing : store.Willing) {table : Table} {count : Nat}
    (some : count ≠ 0) {records : List α}
    (read : readRows ((store.logs.get table).newestFirst.take count) = .ok records) :
    (newest table count).run.run store = (.ok records, store.touched) :=
  run_newest (willing _ _ _) some read

/-- A store that refuses nothing gives a summary, if the alerts that belong in it can be read. -/
theorem SampleLog.performanceSummary_exists [Stored ρ (Alert ν)] (log : store.SampleLog samples)
    (willing : store.Willing) {alerts : List (Alert ν)}
    (read : readRows ((store.logs.get .alerts).newestFirst.take summaryAlerts) = .ok alerts)
    (settings : Settings ν) (now : Instant) :
    ∃ summary, ((performanceSummary settings now).run.run store).1 = .ok summary := by
  have last : readRows ((store.logs.get .samples).newestFirst.take 1) =
      .ok (samples.reverse.take 1) := readRows_of_hold (log.hold.take 1)
  have current : latestSample.run.run store.touched.touched =
      (.ok (samples.reverse.take 1).head?, store.touched.touched.touched) := by
    unfold latestSample
    rw [run_bind, run_newest_of_willing willing.touched.touched (by decide) last]
    exact run_pure _ _
  have recent : (recentAlerts summaryAlerts).run.run store.touched.touched.touched =
      (.ok alerts, store.touched.touched.touched.touched) :=
    run_newest_of_willing willing.touched.touched.touched (by decide) read
  unfold performanceSummary
  rw [run_bind, log.run_windowSamples, sampleAnswer_of_willing willing]
  dsimp only
  rw [run_bind, log.touched.run_samplesBetween, sampleAnswer_of_willing willing.touched]
  dsimp only
  rw [run_bind, current]
  dsimp only
  rw [run_bind, recent]
  exact ⟨_, rfl⟩

/-! ### Reading the whole -/

/-- A store whose queries and statistics are those of a whole list of samples. -/
structure ReadsWhole [Stored ρ (Alert ν)] (store : Store ρ) (samples : List (Sample ν)) : Prop where
  /-- A query that stops early is answered as one that reads, filters and sorts everything. -/
  loaded : ∀ low high, (samplesBetween low high : StoreM ρ (List (Sample ν))).run.run store =
    (loadBetween .samples low high).run.run store
  between : ∀ low high, (samplesBetween low high).run.run store =
    store.sampleAnswer (createdBetween low high samples)
  averages : ∀ window now, (Store.averages window now).run.run store =
    store.sampleAnswer (FlowAudit.averages samples window now)
  sustained : ∀ metric threshold window now,
    (Store.sustained metric threshold window now).run.run store =
      store.sampleAnswer (FlowAudit.sustained samples metric threshold window now)
  trend : ∀ metric window now, (Store.trend ν metric window now).run.run store =
    store.sampleAnswer (FlowAudit.trend samples metric window now)
  /-- A summary, if there is one, has the means and trends of everything. -/
  summary : ∀ (settings : Settings ν) (now : Instant), now.InCalendar → ∀ summary,
    ((performanceSummary settings now).run.run store).1 = .ok summary →
      summary.averages = (FlowAudit.averages samples averageWindow now).map Scalar.round2 ∧
      summary.trends = .tabulate fun metric => FlowAudit.trend samples metric trendWindow now
  /-- There is one unless the store refuses an access or a recent alert cannot be read. -/
  summarised : store.Willing → ∀ alerts : List (Alert ν),
    readRows ((store.logs.get .alerts).newestFirst.take summaryAlerts) = .ok alerts →
      ∀ (settings : Settings ν) now,
        ∃ summary, ((performanceSummary settings now).run.run store).1 = .ok summary

/-- **A log in the order of time is as good as read whole**, although queries stop early and the
summary takes one window from another. -/
theorem readsWhole_of_sampleLog [Stored ρ (Alert ν)] (log : store.SampleLog samples) :
    store.ReadsWhole samples where
  loaded low high := by rw [log.run_samplesBetween, log.run_loadBetween]
  between := log.run_samplesBetween
  averages := log.run_averages
  sustained := log.run_sustained
  trend := log.run_trend
  summary _ _ calendar _ ok := log.performanceSummary_ok calendar ok
  summarised willing _ read := log.performanceSummary_exists willing read

/-- A sample of the first day of 1970 with a processor load and nothing else. -/
def loadSample (second load : Nat) : Sample ℚ where
  timestamp := .onDay 0 second 0
  cpuPercent := Scalar.ofNat load
  memoryPercent := Scalar.ofNat 0
  memoryBytes := 0
  eventLoopLagMs := Scalar.ofNat 0

/-- Samples with the last two at one time, the larger load first. -/
def tiedSamples : List (Sample ℚ) :=
  [loadSample 10 1, loadSample 20 3, loadSample 20 2]

/-- A store that they were appended to. -/
def tiedStore : Store (Sample ℚ ⊕ Alert ℚ) where
  keys := .counting
  logs := { Tables.fill .empty with
    samples := tiedSamples.foldl (fun log sample => log.append .counting (.inl sample)) .empty }

theorem readsWhole_tiedStore :
    tiedStore.SampleLog tiedSamples ∧ tiedStore.ReadsWhole tiedSamples :=
  have log : tiedStore.SampleLog tiedSamples := ⟨rfl, by decide⟩
  ⟨log, readsWhole_of_sampleLog log⟩

end Store

end FlowAudit
