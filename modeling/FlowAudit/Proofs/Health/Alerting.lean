import FlowAudit.Proofs.Health.Check
import FlowAudit.Proofs.Number.Exact
import FlowAudit.Proofs.Time.Order

/-!
# FlowAudit.Proofs.Health.Alerting

**Alerts follow the checks and the cooldown, over whole runs.** A monitor does not know the alerts it
recorded, only a time for each metric. `Remembers` says that these are the times of the last recorded
alerts; every tick keeps that so, whatever the clock shows and whatever the store refuses. So a tick
records an alert exactly when it is due by the alerts before (`TickAlerts`), and alerts for one metric
keep their distance, those of far apart ticks too (`History`). If there is no cooldown, so that the distance
only has a sign, leap seconds have to end their minutes for that (`alerts_out_of_order`).
-/

namespace FlowAudit

variable {ρ ν : Type}

/-! ### The last alert for a metric -/

/-- The alert for a metric that was recorded last, going by the reports of ticks. -/
def lastRecorded (reports : List (TickReport ν)) (metric : Metric) : Option (Alert ν) :=
  ((reports.flatMap TickReport.alerts).filter fun alert => alert.metric = metric).getLast?

theorem lastRecorded_append (first second : List (TickReport ν)) (metric : Metric) :
    lastRecorded (first ++ second) metric =
      (lastRecorded second metric).or (lastRecorded first metric) := by
  unfold lastRecorded
  rw [List.flatMap_append, List.filter_append, List.getLast?_append]

theorem of_lastRecorded {reports : List (TickReport ν)} {metric : Metric} {alert : Alert ν}
    (last : lastRecorded reports metric = some alert) :
    alert.metric = metric ∧ ∃ report ∈ reports, alert ∈ report.alerts := by
  have member := List.mem_of_getLast? last
  rw [List.mem_filter, List.mem_flatMap, decide_eq_true_iff] at member
  exact ⟨member.2, member.1⟩

theorem lastRecorded_eq_none_iff {reports : List (TickReport ν)} {metric : Metric} :
    lastRecorded reports metric = none ↔
      ∀ report ∈ reports, metric ∉ report.alerts.map Alert.metric := by
  unfold lastRecorded
  rw [List.getLast?_eq_none_iff, List.filter_eq_nil_iff]
  constructor
  · intro none report among recorded
    obtain ⟨alert, member, rfl⟩ := List.mem_map.mp recorded
    exact none alert (List.mem_flatMap.mpr ⟨report, among, member⟩) (decide_eq_true rfl)
  · intro none alert member same
    obtain ⟨report, among, member⟩ := List.mem_flatMap.mp member
    rw [decide_eq_true_iff] at same
    exact none report among (List.mem_map.mpr ⟨alert, member, same⟩)

theorem exists_lastRecorded {reports : List (TickReport ν)} {report : TickReport ν}
    {alert : Alert ν} (among : report ∈ reports) (member : alert ∈ report.alerts) :
    ∃ last, lastRecorded reports alert.metric = some last := by
  rw [← Option.ne_none_iff_exists']
  intro none
  exact lastRecorded_eq_none_iff.mp none report among (List.mem_map_of_mem member)

namespace Monitor

/-- What a monitor remembers of each metric is when the last alert for it was recorded. -/
def Remembers (m : Monitor ν) (earlier : List (TickReport ν)) : Prop :=
  ∀ metric, m.lastAlert.get metric = (lastRecorded earlier metric).map Alert.createdAt

theorem remembers_nil (config : MonitorConfig ν) : ({ config } : Monitor ν).Remembers [] :=
  fun metric => PerMetric.get_tabulate _ metric

/-- The cooldown of a metric is over when it has gone by since the last recorded alert. -/
theorem Remembers.coolingDown_eq_false_iff {m : Monitor ν} {earlier : List (TickReport ν)}
    (remembers : m.Remembers earlier) (metric : Metric) (now : Instant) :
    m.coolingDown metric now = false ↔
      ∀ last, lastRecorded earlier metric = some last →
        m.config.cooldown.nanos ≤ (now.since last.createdAt).nanos := by
  unfold coolingDown
  rw [remembers metric]
  cases lastRecorded earlier metric with
  | none => simp
  | some last => simp

variable [Scalar ν] [Stored ρ (Sample ν)] [Stored ρ (Alert ν)]

/-! ### One tick -/

/-- When a check that begins in a store records an alert: the cooldown since the last alert for the
metric is over, the samples can be read, the metric stayed over its threshold, and the store takes the
alert. -/
def Records (config : MonitorConfig ν) (earlier : List (TickReport ν)) (now : Instant)
    (threshold : ν) (begun : Store ρ) (alert : Alert ν) : Prop :=
  (∀ last, lastRecorded earlier alert.metric = some last →
    config.cooldown.nanos ≤ (now.since last.createdAt).nanos) ∧
  ∃ check checked,
    (Store.sustained alert.metric threshold config.sustained now).run.run begun =
        (.ok check, checked) ∧
      check.sustained ∧ alert = alertFor config alert.metric threshold check now ∧
      ((Store.insertAlert alert).run.run checked).1 = .ok ()

/-- How a tick alerts that comes after others with their reports. -/
structure TickAlerts (m : Monitor ν) (earlier : List (TickReport ν)) (seen : Observation ν)
    (store : Store ρ) : Prop where
  /-- The reported alerts are those that the check of a watched metric records, in the store that the
  sample and the checks before it leave. -/
  recorded : ∀ alert, alert ∈ ((m.tick seen).run store).1.1.alerts ↔
    ∃ before threshold after, m.config.thresholds = before ++ (alert.metric, threshold) :: after ∧
      Records m.config earlier seen.now threshold ((m.opening seen before).run store).2 alert
  /-- There is at most one for each metric. -/
  once : (((m.tick seen).run store).1.1.alerts.map Alert.metric).Nodup
  /-- All checks see the samples that there are when the one of this tick was to be inserted. -/
  samples : ∀ checks, ((m.opening seen checks).run store).2.logs.get .samples =
    ((m.takeSample seen).run store).2.logs.get .samples
  /-- After the checks the reported alerts are stored, in order and on top of those before. -/
  stored : ((m.opening seen m.config.thresholds).run store).2.logs.get .alerts =
    (store.logs.get .alerts).appendAll store.keys
      (((m.tick seen).run store).1.1.alerts.map Stored.write)

omit [Scalar ν] [Stored ρ (Alert ν)] in
theorem afterSample_alerts (store : Store ρ) (sample : Option (Sample ν)) :
    (afterSample store sample).logs.get .alerts = store.logs.get .alerts ∧
      (afterSample store sample).keys = store.keys := by
  cases sample with
  | none => exact ⟨rfl, rfl⟩
  | some sample => exact ⟨rfl, rfl⟩

/-- **A tick alerts as is due**, if the monitor remembers the alerts before and watches no metric
twice. -/
theorem Remembers.tickAlerts {m : Monitor ν} {earlier : List (TickReport ν)}
    (remembers : m.Remembers earlier) (distinct : (m.config.thresholds.map Prod.fst).Nodup)
    (seen : Observation ν) (store : Store ρ) : m.TickAlerts earlier seen store where
  recorded alert := by
    have cooled := remembers.coolingDown_eq_false_iff alert.metric seen.now
    rw [run_tick, run_opening]
    dsimp only
    rw [mem_checkMetrics _ _ distinct]
    refine exists_congr fun before => exists_congr fun threshold => exists_congr fun after =>
      and_congr_right fun _ => ?_
    rw [checkMetric_eq_some_iff, run_opening]
    constructor
    · rintro ⟨check, checked, read, sustained, cool, made, taken⟩
      exact ⟨cooled.mp cool, check, checked, read, sustained, made, taken⟩
    · rintro ⟨cool, check, checked, read, sustained, made, taken⟩
      exact ⟨check, checked, read, sustained, cooled.mpr cool, made, taken⟩
  once := by
    rw [run_tick, run_opening]
    exact (checkMetrics_sublist _ _ _ _).nodup distinct
  samples checks := by
    rw [run_opening, run_takeSample]
    dsimp only
    let found := m.sampler.sample? seen.reading seen.clock seen.lag seen.now
    obtain ⟨accesses, checked⟩ := run_checkMetrics_store { m with sampler := found.2 } seen.now
      checks (afterSample store found.1)
    rw [checked, Store.withAlerts_samples]
  stored := by
    rw [run_tick, run_opening]
    dsimp only
    let found := m.sampler.sample? seen.reading seen.clock seen.lag seen.now
    obtain ⟨accesses, checked⟩ := run_checkMetrics_store { m with sampler := found.2 } seen.now
      m.config.thresholds (afterSample store found.1)
    nth_rewrite 1 [checked]
    rw [Store.withAlerts_alerts, (afterSample_alerts _ _).1, (afterSample_alerts _ _).2]

theorem TickAlerts.createdAt {m : Monitor ν} {earlier : List (TickReport ν)} {seen : Observation ν}
    {store : Store ρ} (alerts : m.TickAlerts earlier seen store) {alert : Alert ν}
    (member : alert ∈ ((m.tick seen).run store).1.1.alerts) : alert.createdAt = seen.now := by
  obtain ⟨before, threshold, after, -, -, check, checked, -, -, made, -⟩ :=
    (alerts.recorded alert).mp member
  rw [made]
  rfl

/-- A tick leaves a monitor that remembers its alerts too. -/
theorem Remembers.tick {m : Monitor ν} {earlier : List (TickReport ν)}
    (remembers : m.Remembers earlier) {seen : Observation ν} {store : Store ρ}
    (alerts : m.TickAlerts earlier seen store) :
    ((m.tick seen).run store).1.2.Remembers (earlier ++ [((m.tick seen).run store).1.1]) := by
  intro metric
  rw [tick_lastAlert, lastRecorded_append]
  by_cases recorded : metric ∈ ((m.tick seen).run store).1.1.alerts.map Alert.metric
  · obtain ⟨alert, member, rfl⟩ := List.mem_map.mp recorded
    obtain ⟨last, found⟩ := exists_lastRecorded (List.mem_singleton_self _) member
    obtain ⟨-, report, among, member⟩ := of_lastRecorded found
    rw [List.mem_singleton] at among
    rw [if_pos recorded, found, Option.some_or, Option.map_some,
      alerts.createdAt (among ▸ member)]
  · have none : lastRecorded [((m.tick seen).run store).1.1] metric = none := by
      rw [lastRecorded_eq_none_iff]
      intro report among
      rw [List.mem_singleton.mp among]
      exact recorded
    rw [if_neg recorded, none, Option.none_or]
    exact remembers metric

/-! ### Tick after tick -/

/-- A time for which being that far apart carries over from one pair of clocks to the next: one of a
second or more, or none at all where leap seconds end their minutes. -/
def CarriesOver (time : Span) (clocks : List Instant) : Prop :=
  1000000000 ≤ time.nanos ∨ time.nanos = 0 ∧ ∀ now ∈ clocks, now.LeapEndsMinute

/-- Ticks whose alerts for one metric keep their distance, each with all before it. -/
def Spaced (distance : Span) (entries : List (Observation ν × TickReport ν)) : Prop :=
  entries.Pairwise fun earlier later =>
    ∀ first ∈ earlier.2.alerts, ∀ second ∈ later.2.alerts, first.metric = second.metric →
      distance.nanos ≤ (later.1.now.since earlier.1.now).nanos

/-- A monitor and the ticks that it has made. -/
structure History (m : Monitor ν) (entries : List (Observation ν × TickReport ν)) : Prop where
  remembers : m.Remembers (entries.map Prod.snd)
  stamped : ∀ entry ∈ entries, ∀ alert ∈ entry.2.alerts, alert.createdAt = entry.1.now
  spaced : CarriesOver m.config.cooldown (entries.map fun entry => entry.1.now) →
    Spaced m.config.cooldown entries

/-- **One more tick** keeps alerts for one metric apart. The last of those before it is what its own is
compared with; the others are further away. -/
theorem History.tick {m : Monitor ν} {entries : List (Observation ν × TickReport ν)}
    (history : m.History entries) (distinct : (m.config.thresholds.map Prod.fst).Nodup)
    (seen : Observation ν) (store : Store ρ) :
    ((m.tick seen).run store).1.2.History (entries ++ [(seen, ((m.tick seen).run store).1.1)]) := by
  have alerts := history.remembers.tickAlerts distinct seen store
  refine ⟨?_, ?_, ?_⟩
  · rw [List.map_append]
    exact history.remembers.tick alerts
  · intro entry among alert member
    rcases List.mem_append.mp among with among | among
    · exact history.stamped entry among alert member
    · rw [List.mem_singleton.mp among] at member ⊢
      exact alerts.createdAt member
  · rw [tick_config, List.map_append]
    intro carries
    have spaced : Spaced m.config.cooldown entries := by
      refine history.spaced (carries.imp id (And.imp_right fun leaps now member => ?_))
      exact leaps now (List.mem_append_left _ member)
    refine List.pairwise_append.mpr ⟨spaced, List.pairwise_singleton _ _, ?_⟩
    rintro entry among later member first hfirst second hsecond same
    rw [List.mem_singleton.mp member] at hsecond ⊢
    obtain ⟨before, threshold, after, -, cooled, -⟩ := (alerts.recorded second).mp hsecond
    obtain ⟨older, newer, rfl⟩ := List.append_of_mem among
    -- The last alert for the metric is of this tick or of one after it.
    obtain ⟨last, found⟩ := exists_lastRecorded
      (List.mem_map_of_mem (List.mem_cons_self (a := entry) (l := newer))) hfirst
    have lastOfAll : lastRecorded ((older ++ entry :: newer).map Prod.snd) second.metric =
        some last := by
      rw [List.map_append, lastRecorded_append, ← same, found, Option.some_or]
    obtain ⟨sameMetric, report, amongReports, hlast⟩ := of_lastRecorded found
    obtain ⟨entry', among', rfl⟩ := List.mem_map.mp amongReports
    have sinceLast := cooled last lastOfAll
    rw [history.stamped entry' (List.mem_append_right _ among') last hlast] at sinceLast
    rcases List.mem_cons.mp among' with rfl | among'
    · exact sinceLast
    · have between := List.rel_of_pairwise_cons (List.pairwise_append.mp spaced).2.1 among' first
        hfirst last hlast sameMetric.symm
      refine Instant.le_since_of_le (carries.imp id fun none => ⟨none.1, ?_, ?_, ?_⟩) sinceLast
        between
      · exact none.2 _ (List.mem_append_right _ (List.mem_singleton_self _))
      · exact none.2 _ (List.mem_append_left _ (List.mem_map_of_mem
          (List.mem_append_right _ (List.mem_cons_of_mem _ among'))))
      · exact none.2 _ (List.mem_append_left _ (List.mem_map_of_mem
          (List.mem_append_right _ List.mem_cons_self)))

/-- A run of ticks adds its own to a history, one report for each. -/
theorem History.ticks {m : Monitor ν} {entries : List (Observation ν × TickReport ν)}
    (history : m.History entries) (distinct : (m.config.thresholds.map Prod.fst).Nodup)
    (run : List (Observation ν)) (store : Store ρ) :
    ((m.ticks run).run store).1.1.length = run.length ∧
      ((m.ticks run).run store).1.2.config = m.config ∧
      ((m.ticks run).run store).1.2.History
        (entries ++ run.zip ((m.ticks run).run store).1.1) := by
  induction run generalizing m entries store with
  | nil =>
      rw [List.zip_nil_left, List.append_nil]
      exact ⟨rfl, rfl, history⟩
  | cons seen rest ih =>
      have sameConfig := m.tick_config seen store
      rw [run_ticks_cons]
      dsimp only
      obtain ⟨length, config, later⟩ := ih (history.tick distinct seen store)
        (by rw [sameConfig]; exact distinct) ((m.tick seen).run store).2
      rw [List.append_assoc] at later
      exact ⟨congrArg (· + 1) length, config.trans sameConfig, later⟩

theorem run_ticks_append (m : Monitor ν) (first second : List (Observation ν)) (store : Store ρ) :
    (m.ticks (first ++ second)).run store =
      let before := (m.ticks first).run store
      let after := (before.1.2.ticks second).run before.2
      ((before.1.1 ++ after.1.1, after.1.2), after.2) := by
  induction first generalizing m store with
  | nil => rfl
  | cons seen rest ih =>
      rw [List.cons_append, run_ticks_cons, run_ticks_cons]
      dsimp only
      rw [ih]
      rfl

/-! ### Monitors that settings ask for -/

omit [Stored ρ (Sample ν)] [Stored ρ (Alert ν)] in
/-- Settings ask for no metric to be watched twice. -/
theorem nodup_thresholds (settings : Settings ν) :
    ((MonitorConfig.ofSettings settings).thresholds.map Prod.fst).Nodup := by
  have metrics : (MonitorConfig.ofSettings settings).thresholds.map Prod.fst =
      Metric.all.filter fun metric => Scalar.lt (Scalar.ofNat 0) (settings.threshold metric) := by
    show List.map Prod.fst (List.map _ _) = _
    rw [List.map_map]
    exact List.map_id _
  rw [metrics]
  exact (show Metric.all.Nodup by decide).filter _

/-- A time given in seconds is a second or more, or none at all. -/
theorem ofSecondsClamped_cases (n : Int) :
    1000000000 ≤ (Span.ofSecondsClamped n).nanos ∨
      (Span.ofSecondsClamped n).nanos = 0 ∧ n ≤ 0 := by
  unfold Span.ofSecondsClamped Span.ofSeconds?
  by_cases fits : (max n 0).natAbs ≤ (Span.maxMillis / 1000).toNat
  · rw [if_pos fits]
    simp only [Option.getD_some, Span.nanosPerSecond]
    omega
  · rw [if_neg fits]
    exact Or.inl (by decide)

/-- **Alerting follows the checks and the cooldown over whole runs**, for all settings, whatever the
ticks find and the clock shows, and whatever the store refuses. Each tick alerts as is due by the
reports before it. Alerts for one metric are at least the cooldown apart; if there is none, they do not
go back in time, as long as leap seconds end their minutes, as they do at clocks that a text gives
(`Instant.ofText?_leapEndsMinute`). -/
theorem alerting_of_settings (settings : Settings ν) (run : List (Observation ν))
    (store : Store ρ) :
    let config := MonitorConfig.ofSettings settings
    let monitor : Monitor ν := { config }
    let reports := ((monitor.ticks run).run store).1.1
    reports.length = run.length ∧
    (∀ before seen rest, run = before ++ seen :: rest →
      let past := (monitor.ticks before).run store
      (∃ later, reports = past.1.1 ++ ((past.1.2.tick seen).run past.2).1.1 :: later) ∧
      past.1.2.config = config ∧ past.1.2.TickAlerts past.1.1 seen past.2) ∧
    (0 < settings.alertCooldown ∨ (∀ seen ∈ run, seen.now.LeapEndsMinute) →
      Spaced config.cooldown (run.zip reports)) := by
  intro config monitor reports
  have distinct : (monitor.config.thresholds.map Prod.fst).Nodup := nodup_thresholds settings
  have start : monitor.History [] :=
    ⟨remembers_nil config, fun _ member => absurd member List.not_mem_nil, fun _ => .nil⟩
  obtain ⟨length, sameConfig, whole⟩ := start.ticks distinct run store
  refine ⟨length, ?_, ?_⟩
  · rintro before seen rest rfl past
    obtain ⟨lengthPast, sameConfig, history⟩ := start.ticks distinct before store
    refine ⟨⟨((((past.1.2.tick seen).run past.2).1.2.ticks rest).run
      ((past.1.2.tick seen).run past.2).2).1.1, ?_⟩, sameConfig, ?_⟩
    · show ((monitor.ticks (before ++ seen :: rest)).run store).1.1 = _
      rw [run_ticks_append]
      rfl
    · have remembers := history.remembers
      rw [List.nil_append, List.map_snd_zip (Nat.le_of_eq lengthPast)] at remembers
      exact remembers.tickAlerts (by rw [sameConfig]; exact distinct) seen past.2
  · intro carries
    have spaced := whole.spaced
    rw [sameConfig, List.nil_append] at spaced
    refine spaced ?_
    rcases ofSecondsClamped_cases settings.alertCooldown with second | ⟨none, notPositive⟩
    · exact Or.inl second
    · refine Or.inr ⟨none, fun now member => ?_⟩
      obtain ⟨entry, among, rfl⟩ := List.mem_map.mp member
      exact carries.resolve_left (Int.not_lt.mpr notPositive) entry.1 (List.of_mem_zip among).1

/-- A tick at which so many percent of the memory are held, or nothing can be read. -/
def memoryTick (held : Option Nat) (now : Instant) : Observation ν where
  reading := held.map fun resident => { cpuTime := 0, resident, totalMemory := 100 }
  clock := 0
  lag := Scalar.ofNat 0
  now

/-- A store without rows, whose rows are samples and alerts themselves. -/
def emptyStore : Store (Sample ℚ ⊕ Alert ℚ) := { keys := .counting }

/-- The reports of a monitor with settings, over an empty store. -/
def reportsOf (settings : Settings ℚ) (run : List (Observation ℚ)) : List (TickReport ℚ) :=
  ((({ config := .ofSettings settings } : Monitor ℚ).ticks run).run emptyStore).1.1

-- Ten minutes after the first alert the cooldown is on; after forty it is over.
example :
    (reportsOf Settings.standard
        [memoryTick (some 90) (.onDay 0 0 0), memoryTick (some 90) (.onDay 0 600 0),
          memoryTick (some 90) (.onDay 0 2400 0)]).map
      (fun report => report.alerts.map Alert.metric) = [[.memory], [], [.memory]] := by
  decide +kernel

/-- Settings without a cooldown, by which only the sample of the tick itself is looked at. -/
def withoutCooldown : Settings ℚ := { Settings.standard with alertCooldown := 0, sustainedAlertDuration := 0 }

/-- Full memory within a leap second at the end of a day, and twice in the first second of the next day,
the second time in a leap second that does not end its minute. -/
def strayLeap : List (Observation ℚ) :=
  [memoryTick (some 90) (.onDay 17166 86399 1900000000), memoryTick (some 90) (.onDay 17167 0 950000000),
    memoryTick (some 90) (.onDay 17167 0 1500000000)]

/-- With a cooldown of half an hour any leap seconds will do; without one, those that end their minutes. -/
theorem alerting_of_settings_leaps :
    (0 < (Settings.standard : Settings ℚ).alertCooldown ∧
      Spaced (MonitorConfig.ofSettings (Settings.standard : Settings ℚ)).cooldown
        (strayLeap.zip (reportsOf Settings.standard strayLeap))) ∧
    (∀ seen ∈ strayLeap.take 2, seen.now.LeapEndsMinute) ∧
      Spaced (MonitorConfig.ofSettings withoutCooldown).cooldown
        ((strayLeap.take 2).zip (reportsOf withoutCooldown (strayLeap.take 2))) := by
  have cooldown : 0 < (Settings.standard : Settings ℚ).alertCooldown := by decide
  have leaps : ∀ seen ∈ strayLeap.take 2, seen.now.LeapEndsMinute := by decide
  exact ⟨⟨cooldown, (alerting_of_settings Settings.standard strayLeap emptyStore).2.2 (.inl cooldown)⟩,
    leaps, (alerting_of_settings withoutCooldown (strayLeap.take 2) emptyStore).2.2 (.inr leaps)⟩

/-- **Without a cooldown alerts can come before and stay away after.** Of three alerts the last is 0.4 seconds
before the first, by the distance that cooldowns go by: it lies in a leap second that does not end its minute.
And in the first second after one that ends its day there is no alert. It is later by the clock, but its
distance does not count the leap second, and is negative. -/
theorem alerts_out_of_order :
    (MonitorConfig.ofSettings withoutCooldown).cooldown.nanos = 0 ∧
    (reportsOf withoutCooldown strayLeap).map (fun report => report.alerts.map Alert.metric) =
      [[.memory], [.memory], [.memory]] ∧
    ((Instant.onDay 17167 0 1500000000).since (.onDay 17166 86399 1900000000)).nanos = -400000000 ∧
    ¬ Spaced (MonitorConfig.ofSettings withoutCooldown).cooldown
      (strayLeap.zip (reportsOf withoutCooldown strayLeap)) ∧
    Instant.onDay 17166 86399 1900000000 < Instant.onDay 17167 0 100000000 ∧
    (reportsOf withoutCooldown [memoryTick (some 90) (.onDay 17166 86399 1900000000),
        memoryTick (some 90) (.onDay 17167 0 100000000)]).map
      (fun report => report.alerts.map Alert.metric) = [[.memory], []] := by
  unfold Spaced
  decide +kernel

end Monitor

end FlowAudit
