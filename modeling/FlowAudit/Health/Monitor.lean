import FlowAudit.Health.Retention
import FlowAudit.Health.Sampler
import FlowAudit.Health.Statistics
import FlowAudit.Settings.Basic

/-!
# FlowAudit.Health.Monitor

Watching a process. Every tick takes a sample and stores it, then looks at each watched metric and
stores an alert when it stayed over its threshold, but at most one for each metric within the
cooldown. About once an hour old records are removed. A store that fails never stops the monitor: what
failed is left out of the tick, and it may succeed at the next one.
-/

namespace FlowAudit

/-- What a monitor does. -/
structure MonitorConfig (ν : Type) where
  /-- Seconds between ticks; none when there are to be no ticks. -/
  interval : Option Nat
  /-- The watched metrics with their thresholds. -/
  thresholds : List (Metric × ν)
  /-- How long a metric has to stay over its threshold. -/
  sustained : Span
  /-- The least time between two alerts for a metric. -/
  cooldown : Span
  /-- The days records are kept; none when they are kept for ever. -/
  retentionDays : Option Int
  deriving Repr, DecidableEq

variable {ρ ν : Type}

/-- The configuration that settings ask for. A metric without a positive threshold is not watched. -/
def MonitorConfig.ofSettings [Scalar ν] (settings : Settings ν) : MonitorConfig ν where
  interval :=
    if settings.performanceInterval > 0 then some settings.performanceInterval.toNat else none
  thresholds :=
    (Metric.all.filter fun metric => Scalar.lt (Scalar.ofNat 0) (settings.threshold metric)).map
      fun metric => (metric, settings.threshold metric)
  sustained := .ofSecondsClamped settings.sustainedAlertDuration
  cooldown := .ofSecondsClamped settings.alertCooldown
  retentionDays := if settings.retentionDays > 0 then some settings.retentionDays else none

/-- What settings ask for that a monitor cannot do. -/
def MonitorConfig.problems [Scalar ν] (settings : Settings ν) : List (SettingsProblem ν) :=
  settings.thresholdProblems ++ settings.retentionProblems

/-- A monitor between two ticks. -/
structure Monitor (ν : Type) where
  config : MonitorConfig ν
  sampler : Sampler := {}
  /-- When the last alert for each metric was stored. -/
  lastAlert : PerMetric (Option Instant) := .tabulate fun _ => none
  /-- When old records were last removed, or were to be. -/
  lastPrune : Option Instant := none

/-- What one tick did. -/
structure TickReport (ν : Type) where
  sample : Option (Sample ν) := none
  /-- Whether the sample was stored. -/
  persisted : Bool := false
  alerts : List (Alert ν) := []
  pruned : Option PruneCounts := none
  deriving Repr, DecidableEq

/-- What a tick finds in the world outside. -/
structure Observation (ν : Type) where
  reading : Option Reading
  /-- A running clock in nanoseconds. -/
  clock : Nat
  /-- The measured lag of the event loop in milliseconds. -/
  lag : ν
  now : Instant

/-- Store an alert. -/
def recordAlert [Stored ρ (Alert ν)] (metric : Metric) (threshold actual durationMinutes : ν)
    (now : Instant) : StoreM ρ (Alert ν) := do
  let alert : Alert ν := { metric, threshold, actual, durationMinutes, createdAt := now }
  Store.insertAlert alert
  return alert

namespace Monitor

/-- The seconds between two removals of old records. -/
def pruneEvery : Int := 3600

/-- Whether less time than the cooldown went by since the last alert for a metric. -/
def coolingDown (m : Monitor ν) (metric : Metric) (now : Instant) : Bool :=
  match m.lastAlert.get metric with
  | some last => (now.since last).nanos < m.config.cooldown.nanos
  | none => false

/-- Whether old records were removed within the last hour. -/
def prunedLately (m : Monitor ν) (now : Instant) : Bool :=
  match m.lastPrune with
  | some last => (now.since last).wholeSeconds < pruneEvery
  | none => false

variable [Scalar ν]

/-- The minutes a metric has to stay over its threshold. -/
def sustainedMinutes (config : MonitorConfig ν) : ν :=
  Scalar.ofNat config.sustained.wholeSeconds.toNat / Scalar.ofNat 60

section Actions

variable [Stored ρ (Sample ν)] [Stored ρ (Alert ν)]

/-- Look at one metric, and store an alert if one is due. -/
def checkMetric (m : Monitor ν) (metric : Metric) (threshold : ν) (now : Instant) :
    StateM (Store ρ) (Option (Alert ν)) := do
  match ← Store.attempt (Store.sustained metric threshold m.config.sustained now) with
  | none => return none
  | some check =>
    if check.sustained && !m.coolingDown metric now then
      Store.attempt (recordAlert metric threshold check.mean (sustainedMinutes m.config) now)
    else return none

/-- Look at metrics one after the other; the stored alerts, and the monitor that remembers them. -/
def checkMetrics (m : Monitor ν) (now : Instant) :
    List (Metric × ν) → StateM (Store ρ) (List (Alert ν) × Monitor ν)
  | [] => return ([], m)
  | (metric, threshold) :: rest => do
    match ← m.checkMetric metric threshold now with
    | none => checkMetrics m now rest
    | some alert =>
      let m := { m with lastAlert := m.lastAlert.set metric (some now) }
      let (alerts, m) ← checkMetrics m now rest
      return (alert :: alerts, m)

/-- Remove old records if it is time to. -/
def pruneIfDue (m : Monitor ν) (now : Instant) :
    StateM (Store ρ) (Option PruneCounts × Monitor ν) := do
  match m.config.retentionDays with
  | none => return (none, m)
  | some days =>
    if m.prunedLately now then return (none, m)
    let counts ← Store.attempt (prune ν days now)
    return (counts, { m with lastPrune := some now })

/-- Take the sample of a tick and store it. -/
def takeSample (m : Monitor ν) (seen : Observation ν) :
    StateM (Store ρ) (TickReport ν × Monitor ν) := do
  let (sample, sampler) := m.sampler.sample? seen.reading seen.clock seen.lag seen.now
  let m := { m with sampler }
  match sample with
  | none => return ({}, m)
  | some sample =>
    let stored ← Store.attempt (Store.insertSample sample)
    return ({ sample, persisted := stored.isSome }, m)

/-- One tick. -/
def tick (m : Monitor ν) (seen : Observation ν) :
    StateM (Store ρ) (TickReport ν × Monitor ν) := do
  let (report, m) ← m.takeSample seen
  let (alerts, m) ← m.checkMetrics seen.now m.config.thresholds
  let (pruned, m) ← m.pruneIfDue seen.now
  return ({ report with alerts, pruned }, m)

/-- Tick after tick. -/
def ticks (m : Monitor ν) :
    List (Observation ν) → StateM (Store ρ) (List (TickReport ν) × Monitor ν)
  | [] => return ([], m)
  | seen :: rest => do
    let (report, m) ← m.tick seen
    let (reports, m) ← ticks m rest
    return (report :: reports, m)

end Actions

/-- How many ticks a monitor makes that is to stop after a number of them; none stands for no end.
The number is looked at after each tick, so there is always a first one. -/
def plannedTicks (config : MonitorConfig ν) (limit : Option Nat) : Option Nat :=
  match config.interval with
  | none => some 0
  | some _ => limit.map (max 1)

end Monitor

end FlowAudit
