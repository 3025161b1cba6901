import FlowAudit.Health.Sample
import FlowAudit.Number.Scalar

/-!
# FlowAudit.Health.Sampler

Taking samples of a process. Processor load is the processor time spent since the previous sample as
a share of the time that went by, so the sampler keeps the previous reading as its baseline; without
one the load is zero. All shares are percentages between zero and a hundred.
-/

namespace FlowAudit

/-- What a process is read as. -/
structure Reading where
  /-- The processor time the process has spent so far, in nanoseconds. -/
  cpuTime : Nat
  /-- Its resident memory in bytes. -/
  resident : Nat
  /-- The memory of the system in bytes. -/
  totalMemory : Nat
  deriving Repr, DecidableEq

variable {ν : Type} [Scalar ν]

/-- Nanoseconds as seconds. Whole seconds and the rest are converted apart. -/
def secondsOf (nanos : Nat) : ν :=
  Scalar.ofNat (nanos / 1000000000) + Scalar.ofNat (nanos % 1000000000) / Scalar.ofNat 1000000000

/-- A share as a percentage. -/
def percent (part whole : ν) : ν :=
  Scalar.clamp (Scalar.ofNat 0) (Scalar.ofNat 100) (part / whole * Scalar.ofNat 100)

/-- The processor load for a time spent out of a time gone by, both in nanoseconds. -/
def cpuPercent (spent gone : Nat) : ν :=
  if gone = 0 then Scalar.ofNat 0 else percent (secondsOf spent) (secondsOf gone)

/-- The share of a system's memory that a process holds. -/
def memoryPercent (resident total : Nat) : ν :=
  if total = 0 then Scalar.ofNat 0 else percent (Scalar.ofNat resident) (Scalar.ofNat total)

/-- The state of a sampler: the processor time and the clock at its last sample. -/
structure Sampler where
  baseline : Option (Nat × Nat) := none
  deriving Repr, DecidableEq

namespace Sampler

/-- Forget the baseline. -/
def reset (_ : Sampler) : Sampler := {}

/-- Take a sample from a reading and a measured lag. `clock` is a running clock in nanoseconds,
which only counts in differences. -/
def sample (s : Sampler) (reading : Reading) (clock : Nat) (lag : ν) (now : Instant) :
    Sample ν × Sampler :=
  ({ timestamp := now
     cpuPercent :=
       match s.baseline with
       | some (cpuTime, before) => cpuPercent (reading.cpuTime - cpuTime) (clock - before)
       | none => Scalar.ofNat 0
     memoryPercent := memoryPercent reading.resident reading.totalMemory
     memoryBytes := reading.resident
     eventLoopLagMs := Scalar.atLeast (Scalar.ofNat 0) lag },
   { baseline := some (reading.cpuTime, clock) })

/-- Take a sample if there is a reading; without one nothing changes. -/
def sample? (s : Sampler) (reading : Option Reading) (clock : Nat) (lag : ν) (now : Instant) :
    Option (Sample ν) × Sampler :=
  match reading with
  | some reading =>
    let (sample, s) := s.sample reading clock lag now
    (some sample, s)
  | none => (none, s)

end Sampler

end FlowAudit
