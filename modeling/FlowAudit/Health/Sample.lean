import FlowAudit.Time.Instant

/-!
# FlowAudit.Health.Sample

What is measured of a running process: three metrics, the sample that holds their values at one
time, and `PerMetric` for anything that there is one of for every metric.
-/

namespace FlowAudit

/-- The measured metrics. -/
inductive Metric where
  | cpu
  | memory
  | eventLoop
  deriving Repr, DecidableEq

/-- One reading of all metrics. -/
structure Sample (ν : Type) where
  timestamp : Instant
  cpuPercent : ν
  memoryPercent : ν
  /-- The resident memory of the process in bytes. -/
  memoryBytes : Nat
  eventLoopLagMs : ν
  deriving Repr, DecidableEq

namespace Metric

def all : List Metric := [cpu, memory, eventLoop]

def name : Metric → String
  | cpu => "cpu"
  | memory => "memory"
  | eventLoop => "eventLoop"

/-- The unit the metric is shown in. -/
def unit : Metric → String
  | cpu | memory => "%"
  | eventLoop => "ms"

/-- The value of the metric in a sample. -/
def valueOf {ν : Type} (metric : Metric) (sample : Sample ν) : ν :=
  match metric with
  | cpu => sample.cpuPercent
  | memory => sample.memoryPercent
  | eventLoop => sample.eventLoopLagMs

/-- The metric with the given name, also by another name it goes by; capital ASCII letters count as
small ones. -/
def ofName? (name : String) : Option Metric :=
  match name.toLower with
  | "cpu" => some cpu
  | "memory" | "mem" => some memory
  | "eventloop" | "event-loop" | "event_loop" | "lag" => some eventLoop
  | _ => none

/-- What is said about a name that stands for no metric. -/
def unknown (name : String) : String :=
  "Unknown metric '" ++ name.toLower ++ "'. Valid metrics: cpu, memory, eventLoop"

end Metric

/-- One thing for every metric. -/
structure PerMetric (α : Type) where
  cpu : α
  memory : α
  eventLoop : α
  deriving Repr, DecidableEq

namespace PerMetric

variable {α β : Type}

/-- One thing for every metric, given as a function. -/
def tabulate (f : Metric → α) : PerMetric α :=
  ⟨f .cpu, f .memory, f .eventLoop⟩

def get (things : PerMetric α) : Metric → α
  | .cpu => things.cpu
  | .memory => things.memory
  | .eventLoop => things.eventLoop

def set (things : PerMetric α) (metric : Metric) (a : α) : PerMetric α :=
  match metric with
  | .cpu => { things with cpu := a }
  | .memory => { things with memory := a }
  | .eventLoop => { things with eventLoop := a }

def map (f : α → β) (things : PerMetric α) : PerMetric β :=
  tabulate fun metric => f (things.get metric)

@[simp]
theorem get_tabulate (f : Metric → α) (metric : Metric) : (tabulate f).get metric = f metric := by
  cases metric <;> rfl

@[simp]
theorem get_set_same (things : PerMetric α) (metric : Metric) (a : α) :
    (things.set metric a).get metric = a := by
  cases metric <;> rfl

theorem get_set_other (things : PerMetric α) {metric other : Metric} (a : α) (h : other ≠ metric) :
    (things.set metric a).get other = things.get other := by
  cases metric <;> cases other <;> simp_all [set, get]

end PerMetric

end FlowAudit
