import FlowAudit.Health.Monitor
import FlowAudit.Proofs.Number.Order
import Mathlib.Tactic.FieldSimp
import Mathlib.Tactic.Positivity

/-!
# FlowAudit.Proofs.Health.Sampler

**A sampler measures the processor load from the last reading there was.** A run of a sampler is a list of
events: readings, failures to read, and resets. A step keeps the baseline at a failure, drops it at a
reset and moves it to every reading; over a whole run the baseline is therefore that of the last reading,
if no reset came after it, however many failures did (`baseline_of_fresh`, `baseline_of_lastReading`).

From this the samples are read off (`run_outcomes`). Over exact fractions all shares are percentages, and
they are what one would compute by hand from two readings. Where there is nothing to divide by, or
processor time ran backwards, they are zero. Since exact division by zero gives zero anyway, the cases
without a divisor are stated for any arithmetic as well (`Guarded`): nothing is divided there.
-/

namespace FlowAudit

/-! ### Shares over exact fractions -/

theorem secondsOf_eq (nanos : ℕ) : (secondsOf nanos : ℚ) = nanos / 1000000000 := by
  have whole : (nanos : ℚ) = (1000000000 * (nanos / 1000000000) + nanos % 1000000000 : ℕ) := by
    rw [Nat.div_add_mod]
  show ((nanos / 1000000000 : ℕ) : ℚ) + (nanos % 1000000000 : ℕ) / (1000000000 : ℕ) = _
  rw [whole]
  push_cast
  ring

theorem percent_eq {part whole : ℚ} (partNonneg : 0 ≤ part) (wholeNonneg : 0 ≤ whole) :
    percent part whole = min 100 (part / whole * 100) := by
  have nonneg : 0 ≤ part / whole * 100 := by positivity
  have range : (0 : ℚ) ≤ 100 := by norm_num
  show Scalar.clamp ((0 : ℕ) : ℚ) ((100 : ℕ) : ℚ) (part / whole * (100 : ℕ)) = _
  push_cast
  rw [Scalar.clamp_eq range, max_eq_right (le_min range nonneg)]

/-- The processor load, computed by hand. -/
theorem cpuPercent_eq (spent gone : ℕ) :
    (cpuPercent spent gone : ℚ) = if gone = 0 then 0 else min 100 ((spent : ℚ) / gone * 100) := by
  unfold cpuPercent
  by_cases none : gone = 0
  · rw [if_pos none, if_pos none]
    rfl
  · have divisor : (gone : ℚ) ≠ 0 := by exact_mod_cast none
    have ratio : (spent : ℚ) / 1000000000 / (gone / 1000000000) = spent / gone := by field_simp
    rw [if_neg none, if_neg none, secondsOf_eq, secondsOf_eq,
      percent_eq (by positivity) (by positivity), ratio]

/-- The share of the memory, computed by hand. -/
theorem memoryPercent_eq (resident total : ℕ) :
    (memoryPercent resident total : ℚ) =
      if total = 0 then 0 else min 100 ((resident : ℚ) / total * 100) := by
  unfold memoryPercent
  by_cases none : total = 0
  · rw [if_pos none, if_pos none]
    rfl
  · rw [if_neg none, if_neg none, Scalar.ofNat_eq, Scalar.ofNat_eq,
      percent_eq (by positivity) (by positivity)]

/-- A share of something, capped at a hundred, is a percentage. -/
theorem percentage_of_eq {x part whole : ℚ} {none : Prop} [Decidable none]
    (partNonneg : 0 ≤ part) (wholeNonneg : 0 ≤ whole)
    (eq : x = if none then 0 else min 100 (part / whole * 100)) : 0 ≤ x ∧ x ≤ 100 := by
  rw [eq]
  by_cases zero : none
  · rw [if_pos zero]
    norm_num
  · rw [if_neg zero]
    exact ⟨le_min (by norm_num) (by positivity), min_le_left _ _⟩

namespace Sampler

variable {ν : Type}

/-- What happens to a sampler. -/
inductive Event (ν : Type) where
  | reset
  | observed (seen : Observation ν)

/-- The process could not be read. -/
def Event.Failed : Event ν → Prop
  | .reset => False
  | .observed seen => seen.reading = none

/-! ### What a load is measured from -/

/-- Nothing was read since the beginning or since the last reset. -/
def Fresh (events : List (Event ν)) : Prop :=
  (∀ event ∈ events, event.Failed) ∨
    ∃ earlier since, events = earlier ++ .reset :: since ∧ ∀ event ∈ since, event.Failed

/-- The last reading there was, with nothing but failures since. -/
def LastReading (events : List (Event ν)) (last : Observation ν) (reading : Reading) : Prop :=
  ∃ earlier since, events = earlier ++ .observed last :: since ∧ last.reading = some reading ∧
    ∀ event ∈ since, event.Failed

theorem Fresh.concat {events : List (Event ν)} (fresh : Fresh events) {event : Event ν}
    (failed : event.Failed) : Fresh (events ++ [event]) := by
  rcases fresh with all | ⟨earlier, since, rfl, all⟩
  · exact Or.inl (List.forall_mem_append.mpr ⟨all, List.forall_mem_singleton.mpr failed⟩)
  · exact Or.inr ⟨earlier, since ++ [event], List.append_assoc _ _ _,
      List.forall_mem_append.mpr ⟨all, List.forall_mem_singleton.mpr failed⟩⟩

theorem LastReading.concat {events : List (Event ν)} {last : Observation ν} {reading : Reading}
    (found : LastReading events last reading) {event : Event ν} (failed : event.Failed) :
    LastReading (events ++ [event]) last reading := by
  obtain ⟨earlier, since, rfl, read, all⟩ := found
  exact ⟨earlier, since ++ [event], List.append_assoc _ _ _, read,
    List.forall_mem_append.mpr ⟨all, List.forall_mem_singleton.mpr failed⟩⟩

/-- **Either there is a reading to measure from or there is none.** -/
theorem fresh_or_lastReading (events : List (Event ν)) :
    Fresh events ∨ ∃ last reading, LastReading events last reading := by
  induction events using List.reverseRecOn with
  | nil => exact Or.inl (Or.inl (List.forall_mem_nil _))
  | append_singleton before event ih =>
      cases event with
      | reset => exact Or.inl (Or.inr ⟨before, [], rfl, List.forall_mem_nil _⟩)
      | observed seen =>
          cases read : seen.reading with
          | some reading =>
              exact Or.inr ⟨seen, reading, before, [], rfl, read, List.forall_mem_nil _⟩
          | none =>
              have failed : (Event.observed seen).Failed := read
              rcases ih with fresh | ⟨last, reading, found⟩
              · exact Or.inl (fresh.concat failed)
              · exact Or.inr ⟨last, reading, found.concat failed⟩

/-! ### Runs -/

variable [Scalar ν]

/-- The sample of an event, if it gives one, and the sampler after it. -/
def step (s : Sampler) : Event ν → Option (Sample ν) × Sampler
  | .reset => (none, s.reset)
  | .observed seen => s.sample? seen.reading seen.clock seen.lag seen.now

/-- What each event of a list gives, and the sampler after all of them. -/
def run (s : Sampler) : List (Event ν) → List (Option (Sample ν)) × Sampler
  | [] => ([], s)
  | event :: rest =>
    let found := s.step event
    (found.1 :: (found.2.run rest).1, (found.2.run rest).2)

theorem run_append (s : Sampler) (before after : List (Event ν)) :
    s.run (before ++ after) =
      ((s.run before).1 ++ ((s.run before).2.run after).1, ((s.run before).2.run after).2) := by
  induction before generalizing s with
  | nil => rfl
  | cons event rest ih =>
      rw [List.cons_append, run, ih]
      rfl

theorem length_run (s : Sampler) (events : List (Event ν)) :
    (s.run events).1.length = events.length := by
  induction events generalizing s with
  | nil => rfl
  | cons event rest ih =>
      rw [run, List.length_cons, List.length_cons, ih]

/-- What an event in the middle of a run gives. -/
theorem getElem?_run (s : Sampler) (before : List (Event ν)) (event : Event ν)
    (after : List (Event ν)) : (s.run (before ++ event :: after)).1[before.length]? =
      some ((s.run before).2.step event).1 := by
  rw [run_append, List.getElem?_append_right (length_run s before).le, length_run, Nat.sub_self]
  rfl

/-! ### The baseline -/

/-- A failure changes nothing. -/
theorem step_of_failed (s : Sampler) {event : Event ν} (failed : event.Failed) :
    s.step event = (none, s) := by
  cases event with
  | reset => exact failed.elim
  | observed seen =>
      have none : seen.reading = none := failed
      show s.sample? seen.reading _ _ _ = _
      rw [none]
      rfl

/-- A reading gives a sample. -/
theorem step_of_read (s : Sampler) {seen : Observation ν} {reading : Reading}
    (read : seen.reading = some reading) : s.step (.observed seen) =
      (some (s.sample reading seen.clock seen.lag seen.now).1,
        (s.sample reading seen.clock seen.lag seen.now).2) := by
  show s.sample? seen.reading _ _ _ = _
  rw [read]
  rfl

theorem run_of_failed (s : Sampler) {events : List (Event ν)}
    (failed : ∀ event ∈ events, event.Failed) : (s.run events).2 = s := by
  induction events with
  | nil => rfl
  | cons event rest ih =>
      rw [run, step_of_failed s (failed event List.mem_cons_self)]
      exact ih fun later member => failed later (List.mem_cons_of_mem _ member)

theorem baseline_of_fresh {events : List (Event ν)} (fresh : Fresh events) :
    (run {} events).2.baseline = none := by
  rcases fresh with all | ⟨earlier, since, rfl, all⟩
  · rw [run_of_failed _ all]
  · rw [run_append]
    show (((run {} earlier).2.reset).run since).2.baseline = none
    rw [run_of_failed _ all]
    rfl

theorem baseline_of_lastReading {events : List (Event ν)} {last : Observation ν} {reading : Reading}
    (found : LastReading events last reading) :
    (run {} events).2.baseline = some (reading.cpuTime, last.clock) := by
  obtain ⟨earlier, since, rfl, read, all⟩ := found
  rw [run_append, run, run_of_failed _ all, step_of_read _ read]
  rfl

/-! ### Samples -/

/-- What an event gives: a sample exactly if there was a reading, and a correct one. -/
inductive Outcome (Correct : Observation ν → Reading → Sample ν → Prop) :
    Event ν → Option (Sample ν) → Prop where
  | reset : Outcome Correct .reset none
  | failed {seen : Observation ν} (failed : seen.reading = none) :
      Outcome Correct (.observed seen) none
  | sampled {seen : Observation ν} {reading : Reading} {s : Sample ν}
      (read : seen.reading = some reading) (correct : Correct seen reading s) :
      Outcome Correct (.observed seen) (some s)

/-- A step gives a correct outcome if the sample of a reading is correct. -/
theorem outcome_step {Correct : Observation ν → Reading → Sample ν → Prop} (s : Sampler)
    (correct : ∀ seen reading,
      Correct seen reading (s.sample reading seen.clock seen.lag seen.now).1)
    (event : Event ν) : Outcome Correct event (s.step event).1 := by
  cases event with
  | reset => exact .reset
  | observed seen =>
      cases read : seen.reading with
      | none =>
          have failed : (Event.observed seen).Failed := read
          rw [step_of_failed s failed]
          exact .failed read
      | some reading =>
          rw [step_of_read s read]
          exact .sampled read (correct seen reading)

/-- A sample in any arithmetic, where there is nothing to divide by. -/
structure Guarded (before : List (Event ν)) (seen : Observation ν) (reading : Reading)
    (s : Sample ν) : Prop where
  first : Fresh before → s.cpuPercent = Scalar.ofNat 0
  /-- No time went by since the last reading. -/
  still : ∀ last earlier, LastReading before last earlier → seen.clock ≤ last.clock →
    s.cpuPercent = Scalar.ofNat 0
  noMemory : reading.totalMemory = 0 → s.memoryPercent = Scalar.ofNat 0

theorem guarded_sample (before : List (Event ν)) (seen : Observation ν) (reading : Reading) :
    Guarded before seen reading
      ((run {} before).2.sample reading seen.clock seen.lag seen.now).1 where
  first fresh := by
    unfold sample
    rw [baseline_of_fresh fresh]
  still last earlier found noTime := by
    unfold sample
    rw [baseline_of_lastReading found]
    exact if_pos (Nat.sub_eq_zero_of_le noTime)
  noMemory none := if_pos none

/-- A sample over exact fractions. -/
structure Sampled (before : List (Event ℚ)) (seen : Observation ℚ) (reading : Reading)
    (s : Sample ℚ) : Prop where
  timestamp : s.timestamp = seen.now
  memoryBytes : s.memoryBytes = reading.resident
  cpu : 0 ≤ s.cpuPercent ∧ s.cpuPercent ≤ 100
  memory : 0 ≤ s.memoryPercent ∧ s.memoryPercent ≤ 100
  lag : 0 ≤ s.eventLoopLagMs
  /-- A lag is kept as it was measured unless it is negative. -/
  lag_eq : s.eventLoopLagMs = max 0 seen.lag
  memory_eq : s.memoryPercent = if reading.totalMemory = 0 then 0 else
    min 100 ((reading.resident : ℚ) / reading.totalMemory * 100)
  first : Fresh before → s.cpuPercent = 0
  /-- The load since the last reading; none if no time went by or processor time ran backwards. -/
  cpu_eq : ∀ last earlier, LastReading before last earlier →
    s.cpuPercent = if seen.clock ≤ last.clock ∨ reading.cpuTime ≤ earlier.cpuTime then 0 else
      min 100 (((reading.cpuTime : ℚ) - earlier.cpuTime) / ((seen.clock : ℚ) - last.clock) * 100)

theorem cpuPercent_sub (cpuTime cpuTime' clock clock' : ℕ) :
    (cpuPercent (cpuTime' - cpuTime) (clock' - clock) : ℚ) =
      if clock' ≤ clock ∨ cpuTime' ≤ cpuTime then 0 else
        min 100 (((cpuTime' : ℚ) - cpuTime) / ((clock' : ℚ) - clock) * 100) := by
  rw [cpuPercent_eq]
  by_cases noTime : clock' ≤ clock
  · rw [if_pos (Nat.sub_eq_zero_of_le noTime), if_pos (Or.inl noTime)]
  rw [if_neg (Nat.sub_ne_zero_of_lt (not_le.mp noTime))]
  by_cases back : cpuTime' ≤ cpuTime
  · rw [if_pos (Or.inr back), Nat.sub_eq_zero_of_le back, Nat.cast_zero, zero_div, zero_mul]
    exact min_eq_right (by norm_num)
  · rw [if_neg (by omega), Nat.cast_sub (not_le.mp back).le, Nat.cast_sub (not_le.mp noTime).le]

theorem sampled_sample (before : List (Event ℚ)) (seen : Observation ℚ) (reading : Reading) :
    Sampled before seen reading
      ((run {} before).2.sample reading seen.clock seen.lag seen.now).1 := by
  have memory := memoryPercent_eq reading.resident reading.totalMemory
  have lag : ((run {} before).2.sample reading seen.clock seen.lag seen.now).1.eventLoopLagMs =
      max 0 seen.lag := Scalar.atLeast_eq_max _ _
  have first (fresh : Fresh before) :
      ((run {} before).2.sample reading seen.clock seen.lag seen.now).1.cpuPercent = 0 :=
    (guarded_sample before seen reading).first fresh
  have measured {last : Observation ℚ} {earlier : Reading}
      (found : LastReading before last earlier) :
      ((run {} before).2.sample reading seen.clock seen.lag seen.now).1.cpuPercent =
        cpuPercent (reading.cpuTime - earlier.cpuTime) (seen.clock - last.clock) := by
    unfold sample
    rw [baseline_of_lastReading found]
  have cpu : 0 ≤ ((run {} before).2.sample reading seen.clock seen.lag seen.now).1.cpuPercent ∧
      ((run {} before).2.sample reading seen.clock seen.lag seen.now).1.cpuPercent ≤ 100 := by
    rcases fresh_or_lastReading before with fresh | ⟨last, earlier, found⟩
    · rw [first fresh]
      norm_num
    · rw [measured found]
      exact percentage_of_eq (by positivity) (by positivity) (cpuPercent_eq _ _)
  exact {
    timestamp := rfl
    memoryBytes := rfl
    cpu
    memory := percentage_of_eq (by positivity) (by positivity) memory
    lag := lag ▸ le_max_left _ _
    lag_eq := lag
    memory_eq := memory
    first
    cpu_eq := fun _ _ found => (measured found).trans (cpuPercent_sub _ _ _ _) }

/-- **What a run of a sampler gives**, whatever happened before and happens after: a sample for every
reading and for nothing else, whose values are percentages and a lag that is not negative. The load is
zero for the first reading, and else it is that since the last reading, if there was a failure since or
not. A failure changes no sample that comes after it. -/
theorem run_outcomes :
    (∀ (before : List (Event ℚ)) (event : Event ℚ) (after : List (Event ℚ)),
      ∃ outcome, (run {} (before ++ event :: after)).1[before.length]? = some outcome ∧
        Outcome (Sampled before) event outcome) ∧
    (∀ (ν : Type) [Scalar ν] (before : List (Event ν)) (event : Event ν) (after : List (Event ν)),
      ∃ outcome, (run {} (before ++ event :: after)).1[before.length]? = some outcome ∧
        Outcome (Guarded before) event outcome) ∧
    ∀ (s : Sampler) (before : List (Event ℚ)) (event : Event ℚ) (after : List (Event ℚ)),
      event.Failed → ∃ outcomes last,
        s.run (before ++ after) = ((s.run before).1 ++ outcomes, last) ∧
        s.run (before ++ event :: after) = ((s.run before).1 ++ none :: outcomes, last) := by
  refine ⟨fun before event after => ?_, fun ν _ before event after => ?_,
    fun s before event after failed => ?_⟩
  · exact ⟨_, getElem?_run {} before event after, outcome_step _ (sampled_sample before) event⟩
  · exact ⟨_, getElem?_run {} before event after, outcome_step _ (guarded_sample before) event⟩
  · refine ⟨_, _, run_append s before after, ?_⟩
    rw [run_append, run, step_of_failed _ failed]

/-- An observation at a number of seconds of the clock, with so many milliseconds of lag. -/
def observation (reading : Option Reading) (second : Nat) (lag : ℚ) : Observation ℚ where
  reading
  clock := second * 1000000000
  lag
  now := .onDay 0 second 0

/-- One second of processor time in the first second. -/
def firstReading : Observation ℚ :=
  observation (some { cpuTime := 1000000000, resident := 256, totalMemory := 1024 }) 1 4

/-- One more second of it two seconds later, with more memory than there is and a negative lag. -/
def secondReading : Observation ℚ :=
  observation (some { cpuTime := 2000000000, resident := 2048, totalMemory := 1024 }) 3 (-1)

/-- One second of processor time in two is a load of one half, whatever failed in between. -/
theorem run_outcomes_failure :
    (Event.observed (observation none 2 0)).Failed ∧
    (∃ s, (run {} [.observed firstReading, .observed (observation none 2 0),
        .observed secondReading]).1[2]? = some (some s) ∧
      s.cpuPercent = 50 ∧ s.memoryPercent = 100 ∧ s.eventLoopLagMs = 0) ∧
    (run {} [.observed firstReading, .observed (observation none 2 0), .observed secondReading]).2 =
      (run {} [.observed firstReading, .observed secondReading]).2 := by
  have failed : (Event.observed (observation none 2 0)).Failed := rfl
  obtain ⟨exact, -, omitted⟩ := run_outcomes
  obtain ⟨outcome, found, correct⟩ := exact
    [.observed firstReading, .observed (observation none 2 0)] (.observed secondReading) []
  obtain ⟨outcomes, last, omission, whole⟩ := omitted {} [.observed firstReading]
    (.observed (observation none 2 0)) [.observed secondReading] failed
  refine ⟨failed, ?_, (congrArg Prod.snd whole).trans (congrArg Prod.snd omission).symm⟩
  cases correct with
  | failed none => cases none
  | sampled read sampled =>
      cases read
      have since := sampled.cpu_eq firstReading _
        ⟨[], [.observed (observation none 2 0)], rfl, rfl, by simpa using failed⟩
      refine ⟨_, found, since.trans ?_, sampled.memory_eq.trans ?_, sampled.lag_eq.trans ?_⟩ <;>
        norm_num [firstReading, secondReading, observation]

end Sampler

end FlowAudit
