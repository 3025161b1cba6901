import FlowAudit.Proofs.Health.Alerting
import FlowAudit.Proofs.Health.Pruning
import FlowAudit.Proofs.Record.Kept
import Mathlib

/-!
# FlowAudit.Proofs.Health.Retention

**Removing old records does not change alerts**, where the days that records are kept are no shorter
than the time a metric has to stay over its threshold (`Monitor.alerts_of_retention`). Two monitors
are run side by side, one of which removes records (`Monitor.Shadows`). What that one no longer has, no
check looks at; so both record the same alerts, tick after tick. For this a sample must not be read with
another time than it was written with, as is so for rows of bytes (`Monitor.keepsTime_of_storable`).

Leap seconds are the exception. Going back a day from within one comes out later than going back a day
from the second after it, so a sample can be removed that is still needed
(`Monitor.alert_raised_by_retention`).
-/

namespace FlowAudit

open Json

variable {ρ ν : Type}

/-- The same configuration, but with records kept for so many days, or for ever. -/
def MonitorConfig.keeping (config : MonitorConfig ν) (retentionDays : Option Int) :
    MonitorConfig ν :=
  { config with retentionDays }

/-- The samples that a sampler takes, tick after tick. -/
def Sampler.samples [Scalar ν] (s : Sampler) : List (Observation ν) → List (Option (Sample ν))
  | [] => []
  | seen :: rest =>
    let found := s.sample? seen.reading seen.clock seen.lag seen.now
    found.1 :: found.2.samples rest

namespace Monitor

variable [Scalar ν] [Stored ρ (Sample ν)] [Stored ρ (Alert ν)]

/-! ### Checks in two stores -/

/-- Stores that refuse nothing and hold the same samples for all that a window ending now can tell. -/
structure SeesAlike (ν : Type) [Stored ρ (Sample ν)] (window : Span) (now : Instant)
    (a b : Store ρ) : Prop where
  left : a.Willing
  right : b.Willing
  collect : (collectSamples (now.windowStart window) now (a.logs.get .samples).newestFirst [] :
      Except StoreError (List (Sample ν))) =
    collectSamples (now.windowStart window) now (b.logs.get .samples).newestFirst []

omit [Scalar ν] in
/-- Alerts on top of either store are not seen. -/
theorem SeesAlike.withAlerts {window : Span} {now : Instant} {a b : Store ρ}
    (alike : SeesAlike ν window now a b) (first second : List (Alert ν)) (m n : Nat) :
    SeesAlike ν window now (a.withAlerts first m) (b.withAlerts second n) :=
  ⟨alike.left, alike.right, alike.collect⟩

theorem run_checkMetric_of_willing (m : Monitor ν) (now : Instant) (metric : Metric) (threshold : ν)
    {store : Store ρ} (willing : store.Willing) :
    ((m.checkMetric metric threshold now).run store).1 =
      match (collectSamples (now.windowStart m.config.sustained) now
          (store.logs.get .samples).newestFirst [] : Except StoreError (List (Sample ν))) with
      | .error _ => none
      | .ok samples =>
        let check := FlowAudit.sustained samples metric threshold m.config.sustained now
        if check.sustained && !m.coolingDown metric now then
          some (alertFor m.config metric threshold check now)
        else none := by
  rw [run_checkMetric, Store.run_sustained, if_neg (willing.accepts _ _ _)]
  cases (collectSamples (now.windowStart m.config.sustained) now
    (store.logs.get .samples).newestFirst [] : Except StoreError (List (Sample ν))) with
  | error failure => rfl
  | ok samples =>
      dsimp only [Except.map]
      rw [if_neg (willing.accepts (store.accesses + 1) .append .alerts)]
      split <;> rfl

/-- **Checks that see the same record the same**, and remember the same. -/
theorem checkMetrics_alike {m m' : Monitor ν} (sustained : m.config.sustained = m'.config.sustained)
    (cooldown : m.config.cooldown = m'.config.cooldown) (last : m.lastAlert = m'.lastAlert)
    {now : Instant} {a b : Store ρ} (alike : SeesAlike ν m.config.sustained now a b)
    (checks : List (Metric × ν)) :
    ((m.checkMetrics now checks).run a).1.1 = ((m'.checkMetrics now checks).run b).1.1 ∧
      ((m.checkMetrics now checks).run a).1.2.lastAlert =
        ((m'.checkMetrics now checks).run b).1.2.lastAlert := by
  induction checks generalizing m m' a b with
  | nil => exact ⟨rfl, last⟩
  | cons check rest ih =>
      obtain ⟨metric, threshold⟩ := check
      have same : ((m.checkMetric metric threshold now).run a).1 =
          ((m'.checkMetric metric threshold now).run b).1 := by
        rw [← checkMetric_congr now sustained cooldown (congrArg (·.get metric) last),
          run_checkMetric_of_willing m now metric threshold alike.left,
          run_checkMetric_of_willing m now metric threshold alike.right, alike.collect]
      have later : SeesAlike ν m.config.sustained now
          ((m.checkMetric metric threshold now).run a).2
          ((m'.checkMetric metric threshold now).run b).2 := by
        obtain ⟨accesses, afterA⟩ := m.run_checkMetric_store now metric threshold a
        obtain ⟨accesses', afterB⟩ := m'.run_checkMetric_store now metric threshold b
        rw [afterA, afterB]
        exact alike.withAlerts _ _ accesses accesses'
      have config := m.remember_config now metric ((m'.checkMetric metric threshold now).run b).1
      have config' := m'.remember_config now metric ((m'.checkMetric metric threshold now).run b).1
      have remembered : (m.remember now metric
          ((m'.checkMetric metric threshold now).run b).1).lastAlert =
          (m'.remember now metric ((m'.checkMetric metric threshold now).run b).1).lastAlert := by
        cases ((m'.checkMetric metric threshold now).run b).1 with
        | none => exact last
        | some alert => exact congrArg (·.set metric (some now)) last
      have others := ih (by rw [config, config']; exact sustained)
        (by rw [config, config']; exact cooldown) remembered (by rw [config]; exact later)
      rw [run_checkMetrics_cons, run_checkMetrics_cons]
      dsimp only
      rw [same]
      exact ⟨congrArg _ others.1, others.2⟩

/-! ### Two monitors side by side -/

/-- A monitor that removes old records beside one that does not, before ticks at the clocks to come.
They are configured alike but for that, they remember the same alerts, and their stores refuse
nothing. -/
structure Shadows (config : MonitorConfig ν) (days : Int) (future : List Instant) (m m' : Monitor ν)
    (a b : Store ρ) : Prop where
  left : m.config = config.keeping (some days)
  right : m'.config = config.keeping none
  lastAlert : m.lastAlert = m'.lastAlert
  willing : a.Willing
  willing' : b.Willing
  keeps : Keeps ν config.sustained future (a.logs.get .samples).newestFirst
    (b.logs.get .samples).newestFirst

/-- The row that is written for a sample is not read as a sample of another time. -/
def KeepsTime (ρ : Type) [Stored ρ (Sample ν)] (sample : Sample ν) : Prop :=
  ∀ found : Sample ν, Stored.read? (Stored.write sample : ρ) = some found →
    found.timestamp = sample.timestamp

omit [Scalar ν] [Stored ρ (Sample ν)] [Stored ρ (Alert ν)] in
/-- A sample whose texts read back has its time in a row of bytes. -/
theorem keepsTime_of_storable [ToValue ν] [OfTree ν] {sample : Sample ν}
    (storable : sample.Storable) : KeepsTime Bytes sample := by
  intro found read
  rw [read?_write storable.decodes] at read
  cases read
  rfl

omit [Stored ρ (Alert ν)] [Scalar ν] in
theorem newestFirst_afterSample {store : Store ρ} (willing : store.Willing)
    (sample : Option (Sample ν)) :
    (afterSample store sample).Willing ∧
      ((afterSample store sample).logs.get .samples).newestFirst =
        (sample.map Stored.write).toList ++ (store.logs.get .samples).newestFirst := by
  cases sample with
  | none => exact ⟨willing, rfl⟩
  | some sample =>
      refine ⟨willing, ?_⟩
      have accepted : store.accepted .samples [sample] = [sample] := by
        simp [Store.accepted, willing store.accesses .append .samples]
      show ((store.afterInserts .samples [sample]).logs.get .samples).newestFirst = _
      rw [Store.afterInserts_logs, Tables.get_set_same, accepted]
      rfl

theorem timestamp_of_sample? {sampler : Sampler} {seen : Observation ν} {s : Sample ν}
    (taken : (sampler.sample? seen.reading seen.clock seen.lag seen.now).1 = some s) :
    s.timestamp = seen.now := by
  unfold Sampler.sample? at taken
  cases reading : seen.reading with
  | none =>
      rw [reading] at taken
      cases taken
  | some reading' =>
      rw [reading] at taken
      cases taken
      rfl

namespace Shadows

variable {config : MonitorConfig ν} {days : Int} {future : List Instant} {now : Instant}
  {m m' : Monitor ν} {a b : Store ρ} {seen seen' : Observation ν}

omit [Scalar ν] [Stored ρ (Alert ν)] in
/-- The same sample comes on top of both stores. -/
theorem sample (shadows : Shadows config days (now :: future) m m' a b)
    (order : ∀ q ∈ future, now ≤ q) {sample : Option (Sample ν)}
    (taken : ∀ s, sample = some s → s.timestamp = now ∧ KeepsTime ρ s) (sampler sampler' : Sampler) :
    Shadows config days (now :: future) { m with sampler } { m' with sampler := sampler' }
      (afterSample a sample) (afterSample b sample) := by
  obtain ⟨willing, rows⟩ := newestFirst_afterSample shadows.willing sample
  obtain ⟨willing', rows'⟩ := newestFirst_afterSample shadows.willing' sample
  refine ⟨shadows.left, shadows.right, shadows.lastAlert, willing, willing', ?_⟩
  rw [rows, rows']
  cases sample with
  | none => exact shadows.keeps
  | some s =>
      obtain ⟨stamped, time⟩ := taken s rfl
      exact shadows.keeps.insert order fun found read => (time found read).trans stamped

/-- Both monitors record the same alerts. -/
theorem checkMetrics (shadows : Shadows config days (now :: future) m m' a b)
    (checks : List (Metric × ν)) :
    ((m.checkMetrics now checks).run a).1.1 = ((m'.checkMetrics now checks).run b).1.1 ∧
      Shadows config days (now :: future)
        ((m.checkMetrics now checks).run a).1.2 ((m'.checkMetrics now checks).run b).1.2
        ((m.checkMetrics now checks).run a).2 ((m'.checkMetrics now checks).run b).2 := by
  have sustained : m.config.sustained = config.sustained := by
    rw [shadows.left]
    rfl
  have alike : SeesAlike ν m.config.sustained now a b := by
    rw [sustained]
    exact ⟨shadows.willing, shadows.willing', shadows.keeps.collectSamples_eq⟩
  have sameSustained : m.config.sustained = m'.config.sustained := by
    rw [shadows.left, shadows.right]
    rfl
  have sameCooldown : m.config.cooldown = m'.config.cooldown := by
    rw [shadows.left, shadows.right]
    rfl
  obtain ⟨sameAlerts, sameLast⟩ :=
    checkMetrics_alike sameSustained sameCooldown shadows.lastAlert alike checks
  obtain ⟨lastAlert, monitor⟩ := m.checkMetrics_monitor now checks a
  obtain ⟨lastAlert', monitor'⟩ := m'.checkMetrics_monitor now checks b
  obtain ⟨accesses, store⟩ := m.run_checkMetrics_store now checks a
  obtain ⟨accesses', store'⟩ := m'.run_checkMetrics_store now checks b
  refine ⟨sameAlerts, ?_, ?_, sameLast, ?_, ?_, ?_⟩
  · rw [monitor]
    exact shadows.left
  · rw [monitor']
    exact shadows.right
  · rw [store]
    exact shadows.willing
  · rw [store']
    exact shadows.willing'
  · rw [store, store']
    exact shadows.keeps

omit [Scalar ν] in
/-- Old records are removed, or not, before the next ticks. -/
theorem pruneIfDue (shadows : Shadows config days (now :: future) m m' a b)
    (reach : ∀ q ∈ future, retentionCutoff days now ≤ q.windowStart config.sustained) :
    Shadows config days future ((m.pruneIfDue now).run a).1.2 ((m'.pruneIfDue now).run b).1.2
      ((m.pruneIfDue now).run a).2 ((m'.pruneIfDue now).run b).2 := by
  have unchanged : (m'.pruneIfDue now).run b = ((none, m'), b) := by
    unfold Monitor.pruneIfDue
    rw [shadows.right]
    rfl
  rw [unchanged]
  have later : Shadows config days future m m' a b :=
    { shadows with keeps := shadows.keeps.later }
  unfold Monitor.pruneIfDue
  rw [shadows.left]
  dsimp only [MonitorConfig.keeping]
  by_cases lately : m.prunedLately now
  · rw [if_pos lately]
    exact later
  · rw [if_neg lately, StateT.run_bind, Store.run_attempt]
    obtain ⟨willing, left⟩ := Store.run_prune (ν := ν) shadows.willing days now
    refine ⟨rfl, shadows.right, shadows.lastAlert, willing, shadows.willing', ?_⟩
    show Keeps ν config.sustained future
      (((prune ν days now).run.run a).2.logs.get .samples).newestFirst _
    rw [left]
    by_cases readable : (a.logs.get .samples).newestFirst.all (holdsRecord (Sample ν))
    · rw [if_pos readable]
      exact shadows.keeps.later.remove readable reach
    · rw [if_neg readable]
      exact shadows.keeps.later

/-- **A tick of both monitors** records the same alerts, if both take the same sample. -/
theorem tick (shadows : Shadows config days (now :: future) m m' a b) (clock : seen.now = now)
    (clock' : seen'.now = now) (order : ∀ q ∈ future, now ≤ q)
    (reach : ∀ q ∈ future, retentionCutoff days now ≤ q.windowStart config.sustained)
    (same : (m.sampler.sample? seen.reading seen.clock seen.lag seen.now).1 =
      (m'.sampler.sample? seen'.reading seen'.clock seen'.lag seen'.now).1)
    (time : ∀ s, (m.sampler.sample? seen.reading seen.clock seen.lag seen.now).1 = some s →
      KeepsTime ρ s) :
    ((m.tick seen).run a).1.1.alerts = ((m'.tick seen').run b).1.1.alerts ∧
      Shadows config days future ((m.tick seen).run a).1.2 ((m'.tick seen').run b).1.2
        ((m.tick seen).run a).2 ((m'.tick seen').run b).2 := by
  obtain rfl := clock
  rw [clock'] at same
  let found := m.sampler.sample? seen.reading seen.clock seen.lag seen.now
  let found' := m'.sampler.sample? seen'.reading seen'.clock seen'.lag seen.now
  have taken : ∀ s, found.1 = some s → s.timestamp = seen.now ∧ KeepsTime ρ s :=
    fun s took => ⟨timestamp_of_sample? took, time s took⟩
  have sampled := shadows.sample order taken found.2 found'.2
  have watched : m.config.thresholds = m'.config.thresholds := by
    rw [shadows.left, shadows.right]
    rfl
  obtain ⟨sameAlerts, checked⟩ := sampled.checkMetrics m'.config.thresholds
  rw [run_tick, run_tick, run_opening, run_opening, watched, clock']
  dsimp only
  rw [← same]
  exact ⟨sameAlerts, checked.pruneIfDue reach⟩

end Shadows

/-! ### Runs side by side -/

/-- **Run after run of ticks** with the same clocks and samples, both monitors record the same alerts. -/
theorem Shadows.ticks {config : MonitorConfig ν} {days : Int} {m m' : Monitor ν} {a b : Store ρ}
    {run run' : List (Observation ν)}
    (shadows : Shadows config days (run.map Observation.now) m m' a b)
    (clocks : run.map Observation.now = run'.map Observation.now)
    (order : (run.map Observation.now).Pairwise fun now later =>
      now ≤ later ∧ retentionCutoff days now ≤ later.windowStart config.sustained)
    (same : m.sampler.samples run = m'.sampler.samples run')
    (time : ∀ s : Sample ν, some s ∈ m.sampler.samples run → KeepsTime ρ s) :
    ((m.ticks run).run a).1.1.map TickReport.alerts =
      ((m'.ticks run').run b).1.1.map TickReport.alerts := by
  induction run generalizing run' m m' a b with
  | nil =>
      cases run' with
      | nil => rfl
      | cons seen' rest' => cases clocks
  | cons seen rest ih =>
      cases run' with
      | nil => cases clocks
      | cons seen' rest' =>
          obtain ⟨clock, clocks⟩ := List.cons.inj clocks
          obtain ⟨first, order⟩ := List.pairwise_cons.mp order
          obtain ⟨sample, same⟩ := List.cons.inj same
          obtain ⟨alerts, after⟩ := shadows.tick rfl clock.symm (fun q among => (first q among).1)
            (fun q among => (first q among).2) sample
            (fun s took => time s (took ▸ List.mem_cons_self))
          obtain ⟨_, _, monitor⟩ := m.tick_monitor seen a
          obtain ⟨_, _, monitor'⟩ := m'.tick_monitor seen' b
          have later := ih after clocks order (by rw [monitor, monitor']; exact same) fun s took =>
            time s (by rw [monitor] at took; exact List.mem_cons_of_mem _ took)
          rw [run_ticks_cons, run_ticks_cons]
          exact congrArg₂ List.cons alerts later

/-! ### Windows that end before they begin -/

/-- Checks over a window that ends before it begins record nothing. -/
theorem checkMetrics_of_lt (m : Monitor ν) {now : Instant}
    (never : now < now.windowStart m.config.sustained) (checks : List (Metric × ν))
    (store : Store ρ) : ((m.checkMetrics now checks).run store).1.1 = [] := by
  induction checks generalizing m store with
  | nil => rfl
  | cons check rest ih =>
      obtain ⟨metric, threshold⟩ := check
      have silent : ((m.checkMetric metric threshold now).run store).1 = none := by
        rw [Option.eq_none_iff_forall_ne_some]
        intro alert recorded
        obtain ⟨check, checked, read, sustained, -⟩ :=
          (m.checkMetric_eq_some_iff now metric threshold store alert).mp recorded
        rw [Store.run_sustained] at read
        by_cases refused : store.refuses store.accesses .read .samples
        · rw [if_pos refused] at read
          cases read
        · rw [if_neg refused] at read
          cases found : (collectSamples (now.windowStart m.config.sustained) now
              (store.logs.get .samples).newestFirst [] :
              Except StoreError (List (Sample ν))) with
          | error failure =>
              rw [found] at read
              cases read
          | ok samples =>
              rw [found] at read
              cases read
              rw [sustained_of_lt never] at sustained
              cases sustained
      rw [run_checkMetrics_cons]
      dsimp only
      rw [silent]
      exact ih m never _

theorem ticks_of_lt (m : Monitor ν) {run : List (Observation ν)}
    (never : ∀ seen ∈ run, seen.now < seen.now.windowStart m.config.sustained) (store : Store ρ) :
    ((m.ticks run).run store).1.1.map TickReport.alerts = List.replicate run.length [] := by
  induction run generalizing m store with
  | nil => rfl
  | cons seen rest ih =>
      have first : ((m.tick seen).run store).1.1.alerts = [] := by
        let found := m.sampler.sample? seen.reading seen.clock seen.lag seen.now
        rw [run_tick, run_opening]
        exact checkMetrics_of_lt { m with sampler := found.2 } (never seen List.mem_cons_self) _
          (afterSample store found.1)
      have others := ih ((m.tick seen).run store).1.2
        (fun later member => by
          rw [tick_config]
          exact never later (List.mem_cons_of_mem _ member))
        ((m.tick seen).run store).2
      rw [run_ticks_cons]
      exact congrArg₂ List.cons first others

/-! ### The effect of retention -/

/-- A store without rows that refuses nothing. -/
structure Fresh (store : Store ρ) : Prop where
  willing : store.Willing
  empty : ∀ table, (store.logs.get table).rows = []

/-- **Removing old records does not change alerts**, over whole runs. Two monitors with the same
configuration start on stores without rows, and one of them removes records that are older than a
number of days. At clocks that do not go back they take the same samples, which are not read with other
times. Then they record the same alerts at every tick, if these days are no shorter than the time a metric
has to stay over its threshold, and a second longer if there are leap seconds. That time may also be
negative, as long as no window reaches over the end of the calendar and starts over at its beginning. -/
theorem alerts_of_retention {config : MonitorConfig ν} {days : Int}
    {run run' : List (Observation ν)} {store store' : Store ρ}
    (time : ∀ s : Sample ν, some s ∈ Sampler.samples {} run → KeepsTime ρ s) (fresh : Fresh store) (fresh' : Fresh store')
    (spans : config.sustained.nanos ≤ days * 86400 * 1000000000)
    (clocks : run.map Observation.now = run'.map Observation.now)
    (order : (run.map Observation.now).Pairwise (· ≤ ·))
    (calendar : ∀ seen ∈ run, seen.now.InCalendar)
    (same : Sampler.samples {} run = Sampler.samples {} run')
    (forward : 0 ≤ config.sustained.nanos ∨
      ∀ seen ∈ run, seen.now < seen.now.windowStart config.sustained)
    (leap : (∀ seen ∈ run, seen.now.nano.val < 1000000000) ∨
      config.sustained.nanos + 1000000000 ≤ days * 86400 * 1000000000) :
    ((({ config := config.keeping (some days) } : Monitor ν).ticks run).run
        store).1.1.map TickReport.alerts =
      ((({ config := config.keeping none } : Monitor ν).ticks run').run
        store').1.1.map TickReport.alerts := by
  rcases forward with nonneg | never
  · have noRows : ∀ {store : Store ρ}, Fresh store →
        (store.logs.get .samples).newestFirst = [] := by
      intro store fresh
      rw [Log.newestFirst, fresh.empty .samples]
      rfl
    have start : Shadows config days (run.map Observation.now)
        { config := config.keeping (some days) } { config := config.keeping none } store store' := by
      refine ⟨rfl, rfl, rfl, fresh.willing, fresh'.willing, ?_⟩
      rw [noRows fresh, noRows fresh']
      exact .nil _ _
    refine start.ticks clocks ?_ same time
    rw [List.pairwise_map] at order ⊢
    refine order.imp_of_mem fun member member' earlier => ⟨earlier, ?_⟩
    refine retentionCutoff_le_windowStart earlier (calendar _ member') nonneg spans ?_
    exact leap.imp_left fun none => none _ member
  · have length : run.length = run'.length := by
      rw [← List.length_map, clocks, List.length_map]
    have never' : ∀ seen ∈ run', seen.now < seen.now.windowStart config.sustained := by
      intro seen member
      have among : seen.now ∈ run.map Observation.now := by
        rw [clocks]
        exact List.mem_map_of_mem member
      obtain ⟨seen', member', same⟩ := List.mem_map.mp among
      rw [← same]
      exact never seen' member'
    rw [ticks_of_lt { config := config.keeping (some days) } never,
      ticks_of_lt { config := config.keeping none } never', length]

/-- A watch on the memory over a whole day. -/
def dayConfig : MonitorConfig ν where
  interval := none
  thresholds := [(.memory, Scalar.ofNat 50)]
  sustained := ⟨86400 * 1000000000⟩
  cooldown := ⟨0⟩
  retentionDays := none

/-- Half a second into the last day of 2016, in its leap second, and just after that. -/
def leapRun : List (Observation ν) :=
  [memoryTick (some 10) (.onDay 17166 0 500000000), memoryTick none (.onDay 17166 86399 1900000000),
    memoryTick (some 90) (.onDay 17167 0 100000000)]

omit [Scalar ν] [Stored ρ (Sample ν)] [Stored ρ (Alert ν)] in
theorem fresh_ofKeys (keys : KeyRule) : Fresh ({ keys } : Store ρ) where
  willing := fun _ _ _ => rfl
  empty := fun table => by cases table <;> rfl

/-- Samples of a tenth and of nine tenths of the memory. -/
def leapSamples : List (Sample Float) :=
  [{ timestamp := .onDay 17166 0 500000000, cpuPercent := 0, memoryPercent := 10, memoryBytes := 10,
     eventLoopLagMs := 0 },
    { timestamp := .onDay 17167 0 100000000, cpuPercent := 0, memoryPercent := 90, memoryBytes := 90,
      eventLoopLagMs := 0 }]

theorem storable_leapSamples : ∀ s ∈ leapSamples, s.Storable := by
  intro s member
  rw [leapSamples, List.mem_pair] at member
  rcases member with rfl | rfl <;> constructor <;> decide +kernel

/-- Two days are long enough, leap second or not, also where the samples are kept as bytes. -/
theorem alerts_of_retention_twoDays :
    (∀ s : Sample Float, some s ∈ Sampler.samples {} leapRun → KeepsTime Bytes s) ∧
      (dayConfig : MonitorConfig Float).sustained.nanos + 1000000000 ≤ 2 * 86400 * 1000000000 ∧
      ((({ config := dayConfig.keeping (some 2) } : Monitor Float).ticks leapRun).run
          ({ keys := .afterLast } : Store Bytes)).1.1.map TickReport.alerts =
        ((({ config := dayConfig.keeping none } : Monitor Float).ticks leapRun).run
          ({ keys := .counting } : Store Bytes)).1.1.map TickReport.alerts := by
  have samples : Sampler.samples {} leapRun = [leapSamples[0]?, none, leapSamples[1]?] := by
    decide +kernel
  have times : ∀ s : Sample Float, some s ∈ Sampler.samples {} leapRun → KeepsTime Bytes s := by
    intro s took
    refine keepsTime_of_storable (storable_leapSamples s ?_)
    rw [samples, List.mem_cons, List.mem_cons, List.mem_singleton] at took
    rcases took with first | none | second
    · exact List.mem_of_getElem? first.symm
    · cases none
    · exact List.mem_of_getElem? second.symm
  exact ⟨times, by decide, alerts_of_retention times (fresh_ofKeys _) (fresh_ofKeys _) (by decide) rfl
    (by decide) (by decide) rfl (Or.inl (by decide)) (Or.inr (by decide))⟩

/-- **One day is not**, although no shorter than the time watched. In the leap second the first sample
is removed as more than a day old, and after it is not: there the watched day has two samples, of which
one is high, and without the first it has only that one. -/
theorem alert_raised_by_retention :
    (dayConfig : MonitorConfig ℚ).sustained.nanos ≤ 1 * 86400 * 1000000000 ∧
      ((leapRun : List (Observation ℚ)).map Observation.now).Pairwise (· ≤ ·) ∧
      ((({ config := dayConfig.keeping (some 1) } : Monitor ℚ).ticks leapRun).run
          emptyStore).1.1.map (fun report => report.alerts.map Alert.metric) = [[], [], [.memory]] ∧
      ((({ config := dayConfig.keeping none } : Monitor ℚ).ticks leapRun).run
          emptyStore).1.1.map (fun report => report.alerts.map Alert.metric) = [[], [], []] := by
  refine ⟨by decide, by decide, ?shortLog, ?wholeLog⟩
  case shortLog => decide +kernel
  -- Merge sort on two samples does not reduce by definition, only by its equations.
  case wholeLog => cbv

end Monitor

end FlowAudit
