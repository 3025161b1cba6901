import FlowAudit.Health.Monitor
import FlowAudit.Proofs.Log.Insertion
import FlowAudit.Proofs.Log.Samples

/-!
# FlowAudit.Proofs.Health.Check

**What the checks of a tick do.** A check of one metric has four outcomes, and `run_checkMetric` tells
them apart for any store: the samples cannot be read, no alert is due, the alert is refused, or it is
recorded. Of checks of several metrics, each records what it would record on its own
(`mem_checkMetrics`), and all that they change in a store is that the recorded alerts come on top
(`run_checkMetrics_store`).
-/

namespace FlowAudit

variable {ρ ν : Type}

namespace Store

variable [Stored ρ (Sample ν)] [Scalar ν]

/-- Whether a metric stayed over its threshold takes one reading of the samples. -/
theorem run_sustained (metric : Metric) (threshold : ν) (window : Span) (now : Instant)
    (store : Store ρ) :
    (Store.sustained metric threshold window now).run.run store =
      if store.refuses store.accesses .read .samples then (.error .poisoned, store.touched)
      else
        ((collectSamples (now.windowStart window) now (store.logs.get .samples).newestFirst []).map
          fun samples => FlowAudit.sustained samples metric threshold window now, store.touched) := by
  unfold Store.sustained windowSamples
  rw [run_bind, run_samplesBetween]
  by_cases refused : store.refuses store.accesses .read .samples
  · rw [if_pos refused, if_pos refused]
  · rw [if_neg refused, if_neg refused]
    cases (collectSamples (now.windowStart window) now (store.logs.get .samples).newestFirst [] :
      Except StoreError (List (Sample ν))) <;> rfl

theorem run_sustained_store (metric : Metric) (threshold : ν) (window : Span) (now : Instant)
    (store : Store ρ) :
    ((Store.sustained metric threshold window now).run.run store).2 = store.touched := by
  rw [run_sustained]
  by_cases refused : store.refuses store.accesses .read .samples
  · rw [if_pos refused]
  · rw [if_neg refused]

end Store

/-! ### Alerts on top -/

namespace Store

variable [Stored ρ (Alert ν)]

/-- A store with alerts on top of its others, after so many accesses. -/
def withAlerts (store : Store ρ) (alerts : List (Alert ν)) (accesses : Nat) : Store ρ :=
  { store with
    logs := store.logs.set .alerts
      ((store.logs.get .alerts).appendAll store.keys (alerts.map Stored.write))
    accesses }

theorem withAlerts_nil (store : Store ρ) (accesses : Nat) :
    store.withAlerts ([] : List (Alert ν)) accesses = { store with accesses } := by
  show { store with logs := store.logs.set .alerts (store.logs.get .alerts), accesses } = _
  rw [Tables.set_get]

theorem withAlerts_withAlerts (store : Store ρ) (first second : List (Alert ν)) (m n : Nat) :
    (store.withAlerts first m).withAlerts second n = store.withAlerts (first ++ second) n := by
  unfold withAlerts
  rw [List.map_append, Log.appendAll_append, Tables.get_set_same, Tables.set_set]

@[simp]
theorem withAlerts_alerts (store : Store ρ) (alerts : List (Alert ν)) (accesses : Nat) :
    (store.withAlerts alerts accesses).logs.get .alerts =
      (store.logs.get .alerts).appendAll store.keys (alerts.map Stored.write) := rfl

@[simp]
theorem withAlerts_samples (store : Store ρ) (alerts : List (Alert ν)) (accesses : Nat) :
    (store.withAlerts alerts accesses).logs.get .samples = store.logs.get .samples := rfl

theorem run_recordAlert (metric : Metric) (threshold actual durationMinutes : ν) (now : Instant)
    (store : Store ρ) :
    (recordAlert metric threshold actual durationMinutes now).run.run store =
      if store.refuses store.accesses .append .alerts then (.error .poisoned, store.touched)
      else
        (.ok { metric, threshold, actual, durationMinutes, createdAt := now },
          store.withAlerts [{ metric, threshold, actual, durationMinutes, createdAt := now }]
            (store.accesses + 1)) := by
  unfold recordAlert insertAlert
  rw [run_bind, run_insert]
  by_cases refused : store.refuses store.accesses .append .alerts
  · rw [if_pos refused, if_pos refused]
  · rw [if_neg refused, if_neg refused]
    rfl

end Store

namespace Monitor

/-! ### What a monitor remembers -/

section Remember

variable (m : Monitor ν) (now : Instant)

/-- A monitor after a check of a metric. -/
def remember (metric : Metric) : Option (Alert ν) → Monitor ν
  | none => m
  | some _ => { m with lastAlert := m.lastAlert.set metric (some now) }

theorem remember_config (metric : Metric) (found : Option (Alert ν)) :
    (m.remember now metric found).config = m.config := by
  cases found <;> rfl

theorem remember_get_same (metric : Metric) (alert : Alert ν) :
    (m.remember now metric (some alert)).lastAlert.get metric = some now :=
  PerMetric.get_set_same _ _ _

theorem remember_get_other {metric other : Metric} (h : other ≠ metric) (found : Option (Alert ν)) :
    (m.remember now metric found).lastAlert.get other = m.lastAlert.get other := by
  cases found with
  | none => rfl
  | some alert => exact PerMetric.get_set_other _ _ h

end Remember

/-! ### One metric -/

variable [Scalar ν]

/-- The alert for a metric that stayed over its threshold. -/
def alertFor (config : MonitorConfig ν) (metric : Metric) (threshold : ν) (check : SustainedCheck ν)
    (now : Instant) : Alert ν where
  metric
  threshold
  actual := check.mean
  durationMinutes := sustainedMinutes config
  createdAt := now

variable [Stored ρ (Sample ν)] [Stored ρ (Alert ν)] (m : Monitor ν) (now : Instant)

/-- The outcomes of a check: the samples cannot be read, no alert is due, the alert is refused, or it
is recorded. -/
theorem run_checkMetric (metric : Metric) (threshold : ν) (store : Store ρ) :
    (m.checkMetric metric threshold now).run store =
      match ((Store.sustained metric threshold m.config.sustained now).run.run store).1 with
      | .error _ => (none, store.touched)
      | .ok check =>
        if check.sustained && !m.coolingDown metric now then
          if store.refuses (store.accesses + 1) .append .alerts then (none, store.touched.touched)
          else
            (some (alertFor m.config metric threshold check now),
              store.withAlerts [alertFor m.config metric threshold check now] (store.accesses + 2))
        else (none, store.touched) := by
  unfold checkMetric
  rw [StateT.run_bind, Store.run_attempt, Store.run_sustained_store]
  cases ((Store.sustained metric threshold m.config.sustained now).run.run store).1 with
  | error failure => rfl
  | ok check =>
      show (if check.sustained && !m.coolingDown metric now then
        Store.attempt (recordAlert metric threshold check.mean (sustainedMinutes m.config) now)
        else return none : StateM (Store ρ) (Option (Alert ν))).run store.touched = _
      by_cases due : check.sustained && !m.coolingDown metric now
      · rw [if_pos due]
        dsimp only
        rw [if_pos due]
        rw [Store.run_attempt, Store.run_recordAlert, Store.touched_refuses, Store.touched_accesses]
        by_cases refused : store.refuses (store.accesses + 1) .append .alerts
        · rw [if_pos refused, if_pos refused]
          rfl
        · rw [if_neg refused, if_neg refused]
          rfl
      · rw [if_neg due]
        dsimp only
        rw [if_neg due]
        rfl

/-- **When a check records an alert**: the samples can be read, the metric stayed over its threshold and
is not cooling down, and the store takes the alert. -/
theorem checkMetric_eq_some_iff (metric : Metric) (threshold : ν) (store : Store ρ)
    (alert : Alert ν) :
    ((m.checkMetric metric threshold now).run store).1 = some alert ↔
      ∃ check checked,
        (Store.sustained metric threshold m.config.sustained now).run.run store =
            (.ok check, checked) ∧
          check.sustained ∧ m.coolingDown metric now = false ∧
          alert = alertFor m.config metric threshold check now ∧
          ((Store.insertAlert alert).run.run checked).1 = .ok () := by
  have after := Store.run_sustained_store metric threshold m.config.sustained now store
  rw [run_checkMetric]
  generalize (Store.sustained metric threshold m.config.sustained now).run.run store = ran at after ⊢
  obtain ⟨failure | check, checked⟩ := ran
  · constructor
    · intro recorded
      cases recorded
    · rintro ⟨check, checked, read, -⟩
      cases read
  · obtain rfl : checked = store.touched := after
    constructor
    · intro recorded
      dsimp only at recorded
      by_cases due : check.sustained && !m.coolingDown metric now
      · rw [if_pos due] at recorded
        by_cases refused : store.refuses (store.accesses + 1) .append .alerts
        · rw [if_pos refused] at recorded
          cases recorded
        · rw [if_neg refused] at recorded
          rw [Bool.and_eq_true, Bool.not_eq_true'] at due
          refine ⟨check, _, rfl, due.1, due.2, (Option.some.inj recorded).symm, ?_⟩
          rw [Store.insertAlert, Store.run_insert, Store.touched_refuses, Store.touched_accesses,
            if_neg refused]
      · rw [if_neg due] at recorded
        cases recorded
    · rintro ⟨found, checked, read, sustained, cool, rfl, taken⟩
      cases read
      have due : (check.sustained && !m.coolingDown metric now) = true := by
        rw [sustained, cool]
        rfl
      have accepted : ¬ store.refuses (store.accesses + 1) .append .alerts := by
        intro refused
        rw [Store.insertAlert, Store.run_insert, Store.touched_refuses, Store.touched_accesses,
          if_pos refused] at taken
        cases taken
      dsimp only
      rw [if_pos due, if_neg accepted]

theorem metric_of_checkMetric {metric : Metric} {threshold : ν} {store : Store ρ} {alert : Alert ν}
    (recorded : ((m.checkMetric metric threshold now).run store).1 = some alert) :
    alert.metric = metric ∧ alert.createdAt = now := by
  obtain ⟨check, checked, -, -, -, rfl, -⟩ :=
    (checkMetric_eq_some_iff m now metric threshold store alert).mp recorded
  exact ⟨rfl, rfl⟩

/-- All that a check changes in a store is that the alert it records comes on top. -/
theorem run_checkMetric_store (metric : Metric) (threshold : ν) (store : Store ρ) :
    ∃ accesses, ((m.checkMetric metric threshold now).run store).2 =
      store.withAlerts ((m.checkMetric metric threshold now).run store).1.toList accesses := by
  have touched : ∀ accesses, { store with accesses } = store.withAlerts ([] : List (Alert ν)) accesses :=
    fun accesses => (store.withAlerts_nil accesses).symm
  rw [run_checkMetric]
  split
  · exact ⟨_, touched _⟩
  · split
    · split
      · exact ⟨_, touched _⟩
      · exact ⟨_, rfl⟩
    · exact ⟨_, touched _⟩

/-- A check of a metric depends on the two times that are configured and on the last alert for that
metric. -/
theorem checkMetric_congr {m m' : Monitor ν} {metric : Metric}
    (sustained : m.config.sustained = m'.config.sustained)
    (cooldown : m.config.cooldown = m'.config.cooldown)
    (last : m.lastAlert.get metric = m'.lastAlert.get metric) (threshold : ν) :
    (m.checkMetric metric threshold now : StateM (Store ρ) (Option (Alert ν))) =
      m'.checkMetric metric threshold now := by
  unfold checkMetric coolingDown sustainedMinutes
  rw [sustained, cooldown, last]

/-! ### Metric after metric -/

theorem run_checkMetrics_cons (metric : Metric) (threshold : ν) (rest : List (Metric × ν))
    (store : Store ρ) :
    (m.checkMetrics now ((metric, threshold) :: rest)).run store =
      let first := (m.checkMetric metric threshold now).run store
      let others := ((m.remember now metric first.1).checkMetrics now rest).run first.2
      ((first.1.toList ++ others.1.1, others.1.2), others.2) := by
  rw [checkMetrics, StateT.run_bind]
  rcases (m.checkMetric metric threshold now).run store with ⟨_ | alert, after⟩ <;> rfl

/-- **Checks change nothing but the alerts**, and put those that they record on top. -/
theorem run_checkMetrics_store (checks : List (Metric × ν)) (store : Store ρ) :
    ∃ accesses, ((m.checkMetrics now checks).run store).2 =
      store.withAlerts ((m.checkMetrics now checks).run store).1.1 accesses := by
  induction checks generalizing m store with
  | nil => exact ⟨_, (store.withAlerts_nil store.accesses).symm⟩
  | cons check rest ih =>
      obtain ⟨metric, threshold⟩ := check
      rw [run_checkMetrics_cons]
      dsimp only
      obtain ⟨between, first⟩ := m.run_checkMetric_store now metric threshold store
      obtain ⟨accesses, others⟩ := ih
        (m.remember now metric ((m.checkMetric metric threshold now).run store).1)
        ((m.checkMetric metric threshold now).run store).2
      refine ⟨accesses, ?_⟩
      rw [others]
      nth_rewrite 1 [first]
      rw [Store.withAlerts_withAlerts]

/-- Of what a monitor holds, checks only change what it remembers of alerts. -/
theorem checkMetrics_monitor (checks : List (Metric × ν)) (store : Store ρ) :
    ∃ lastAlert, ((m.checkMetrics now checks).run store).1.2 = { m with lastAlert } := by
  induction checks generalizing m store with
  | nil => exact ⟨_, rfl⟩
  | cons check rest ih =>
      obtain ⟨metric, threshold⟩ := check
      obtain ⟨lastAlert, others⟩ := ih
        (m.remember now metric ((m.checkMetric metric threshold now).run store).1)
        ((m.checkMetric metric threshold now).run store).2
      rw [run_checkMetrics_cons]
      refine ⟨lastAlert, others.trans ?_⟩
      cases ((m.checkMetric metric threshold now).run store).1 <;> rfl

/-- What is remembered of a metric after checks: their time if they recorded an alert for it, else what
was remembered before. -/
theorem checkMetrics_lastAlert (metric : Metric) (checks : List (Metric × ν)) (store : Store ρ) :
    ((m.checkMetrics now checks).run store).1.2.lastAlert.get metric =
      if metric ∈ ((m.checkMetrics now checks).run store).1.1.map Alert.metric then some now
      else m.lastAlert.get metric := by
  induction checks generalizing m store with
  | nil => rfl
  | cons check rest ih =>
      obtain ⟨checked, threshold⟩ := check
      rw [run_checkMetrics_cons]
      dsimp only
      rw [ih, List.map_append]
      cases found : ((m.checkMetric checked threshold now).run store).1 with
      | none => rfl
      | some alert =>
          obtain ⟨same, -⟩ := m.metric_of_checkMetric now found
          rw [Option.toList_some, List.map_singleton, same, List.singleton_append]
          by_cases here : metric = checked
          · rw [here, remember_get_same, ite_self, if_pos List.mem_cons_self]
          · simp only [remember_get_other m now here, List.mem_cons, here, false_or]

/-- Checks record alerts for some of the metrics, in their order. -/
theorem checkMetrics_sublist (checks : List (Metric × ν)) (store : Store ρ) :
    (((m.checkMetrics now checks).run store).1.1.map Alert.metric).Sublist
      (checks.map Prod.fst) := by
  induction checks generalizing m store with
  | nil => exact .slnil
  | cons check rest ih =>
      obtain ⟨metric, threshold⟩ := check
      rw [run_checkMetrics_cons]
      dsimp only
      rw [List.map_append, List.map_cons]
      cases found : ((m.checkMetric metric threshold now).run store).1 with
      | none => exact (ih _ _).cons _
      | some alert =>
          obtain ⟨same, -⟩ := m.metric_of_checkMetric now found
          rw [Option.toList_some, List.map_singleton, same]
          exact (ih _ _).cons_cons _

/-- **Which alerts checks record**, when each is of another metric: those that a check records on its
own, in the store that the checks before it leave. -/
theorem mem_checkMetrics {checks : List (Metric × ν)} (distinct : (checks.map Prod.fst).Nodup)
    (store : Store ρ) (alert : Alert ν) :
    alert ∈ ((m.checkMetrics now checks).run store).1.1 ↔
      ∃ before threshold after, checks = before ++ (alert.metric, threshold) :: after ∧
        ((m.checkMetric alert.metric threshold now).run
          ((m.checkMetrics now before).run store).2).1 = some alert := by
  induction checks generalizing m store with
  | nil =>
      constructor
      · intro member
        cases member
      · rintro ⟨before, threshold, after, split, -⟩
        cases before <;> cases split
  | cons check rest ih =>
      obtain ⟨metric, threshold⟩ := check
      rw [List.map_cons, List.nodup_cons] at distinct
      obtain ⟨fresh, distinct⟩ := distinct
      have cons := fun checks => m.run_checkMetrics_cons now metric threshold checks store
      -- A check of a later metric does not see what was remembered of this one.
      have later : ∀ {before threshold' after}, rest = before ++ (alert.metric, threshold') :: after →
          ∀ after : Store ρ,
            ((m.remember now metric ((m.checkMetric metric threshold now).run store).1).checkMetric
              alert.metric threshold' now).run after =
            (m.checkMetric alert.metric threshold' now).run after := by
        rintro before threshold' after rfl store'
        have other : alert.metric ≠ metric := by
          rintro rfl
          simp at fresh
        have config := m.remember_config now metric
          ((m.checkMetric metric threshold now).run store).1
        rw [checkMetric_congr now (congrArg MonitorConfig.sustained config)
          (congrArg MonitorConfig.cooldown config) (m.remember_get_other now other _)]
      rw [cons]
      dsimp only
      rw [List.mem_append, Option.mem_toList, ih _ distinct]
      constructor
      · rintro (here | ⟨before, threshold', after, split, recorded⟩)
        · obtain ⟨rfl, -⟩ := m.metric_of_checkMetric now here
          exact ⟨[], threshold, rest, rfl, here⟩
        · refine ⟨(metric, threshold) :: before, threshold', after, by rw [split]; rfl, ?_⟩
          rw [later split] at recorded
          rw [cons]
          exact recorded
      · rintro ⟨_ | ⟨check, before⟩, threshold', after, split, recorded⟩
        · cases split
          exact Or.inl recorded
        · rw [List.cons_append, List.cons.injEq] at split
          obtain ⟨rfl, split⟩ := split
          rw [cons] at recorded
          refine Or.inr ⟨before, threshold', after, split, ?_⟩
          rw [later split]
          exact recorded

/-! ### A tick -/

/-- A store after the sample of a tick, if there is one, was to be inserted. -/
def afterSample (store : Store ρ) : Option (Sample ν) → Store ρ
  | none => store
  | some sample => store.afterInserts .samples [sample]

omit [Stored ρ (Alert ν)] in
theorem run_takeSample (seen : Observation ν) (store : Store ρ) :
    (m.takeSample seen).run store =
      let found := m.sampler.sample? seen.reading seen.clock seen.lag seen.now
      (({ sample := found.1
          persisted := found.1.isSome && !store.refuses store.accesses .append .samples },
        { m with sampler := found.2 }), afterSample store found.1) := by
  unfold takeSample
  rcases m.sampler.sample? seen.reading seen.clock seen.lag seen.now with ⟨_ | sample, sampler⟩
  · rfl
  · dsimp only
    rw [StateT.run_bind, Store.insertSample, Store.run_attempt_insert]
    cases store.refuses store.accesses .append .samples <;> rfl

/-- The beginning of a tick: the sample is taken and stored, and some metrics are checked. -/
def opening (seen : Observation ν) (checks : List (Metric × ν)) :
    StateM (Store ρ) (List (Alert ν) × Monitor ν) := do
  let (_, m) ← m.takeSample seen
  m.checkMetrics seen.now checks

theorem run_opening (seen : Observation ν) (checks : List (Metric × ν)) (store : Store ρ) :
    (m.opening seen checks).run store =
      let found := m.sampler.sample? seen.reading seen.clock seen.lag seen.now
      (({ m with sampler := found.2 } : Monitor ν).checkMetrics seen.now checks).run
        (afterSample store found.1) := by
  unfold opening
  rw [StateT.run_bind, run_takeSample]
  rfl

/-- A tick is its beginning with all metrics, and then old records are removed. -/
theorem run_tick (seen : Observation ν) (store : Store ρ) :
    (m.tick seen).run store =
      let opened := (m.opening seen m.config.thresholds).run store
      let pruned := (opened.1.2.pruneIfDue seen.now).run opened.2
      (({ ((m.takeSample seen).run store).1.1 with alerts := opened.1.1, pruned := pruned.1.1 },
        pruned.1.2), pruned.2) := by
  rw [run_opening]
  unfold tick
  rw [StateT.run_bind, run_takeSample]
  rfl

omit [Scalar ν] in
/-- The removal of old records only changes what a monitor remembers of it. -/
theorem pruneIfDue_monitor (store : Store ρ) :
    ∃ last, ((m.pruneIfDue now).run store).1.2 = { m with lastPrune := last } := by
  unfold pruneIfDue
  cases m.config.retentionDays with
  | none => exact ⟨_, rfl⟩
  | some days =>
      dsimp only
      by_cases lately : m.prunedLately now
      · rw [if_pos lately]
        exact ⟨_, rfl⟩
      · rw [if_neg lately]
        exact ⟨_, rfl⟩

/-- What a tick changes in a monitor. -/
theorem tick_monitor (seen : Observation ν) (store : Store ρ) :
    ∃ lastAlert lastPrune, ((m.tick seen).run store).1.2 =
      { m with
        sampler := (m.sampler.sample? seen.reading seen.clock seen.lag seen.now).2
        lastAlert
        lastPrune } := by
  obtain ⟨lastPrune, pruned⟩ := pruneIfDue_monitor
    ((m.opening seen m.config.thresholds).run store).1.2 seen.now
    ((m.opening seen m.config.thresholds).run store).2
  let found := m.sampler.sample? seen.reading seen.clock seen.lag seen.now
  obtain ⟨lastAlert, checked⟩ := checkMetrics_monitor { m with sampler := found.2 } seen.now
    m.config.thresholds (afterSample store found.1)
  refine ⟨lastAlert, lastPrune, ?_⟩
  rw [run_tick]
  dsimp only
  rw [pruned, run_opening]
  dsimp only
  rw [checked]

theorem tick_config (seen : Observation ν) (store : Store ρ) :
    ((m.tick seen).run store).1.2.config = m.config := by
  obtain ⟨lastAlert, lastPrune, ticked⟩ := m.tick_monitor seen store
  rw [ticked]

/-- What a monitor remembers of a metric after a tick. -/
theorem tick_lastAlert (metric : Metric) (seen : Observation ν) (store : Store ρ) :
    ((m.tick seen).run store).1.2.lastAlert.get metric =
      if metric ∈ ((m.tick seen).run store).1.1.alerts.map Alert.metric then some seen.now
      else m.lastAlert.get metric := by
  obtain ⟨last, pruned⟩ := pruneIfDue_monitor
    ((m.opening seen m.config.thresholds).run store).1.2 seen.now
    ((m.opening seen m.config.thresholds).run store).2
  rw [run_tick]
  dsimp only
  rw [pruned, run_opening]
  exact checkMetrics_lastAlert _ _ _ _ _

/-- Tick after tick: the first one, and the others from where it ends. -/
theorem run_ticks_cons (seen : Observation ν) (rest : List (Observation ν)) (store : Store ρ) :
    (m.ticks (seen :: rest)).run store =
      let first := (m.tick seen).run store
      let others := (first.1.2.ticks rest).run first.2
      ((first.1.1 :: others.1.1, others.1.2), others.2) := rfl

end Monitor

end FlowAudit
