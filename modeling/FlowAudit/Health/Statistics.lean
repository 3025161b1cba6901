import FlowAudit.Health.Window
import FlowAudit.Log.Query

/-!
# FlowAudit.Health.Statistics

The statistics of windows over the samples of a store.
-/

namespace FlowAudit

/-- The value of one metric at one time. -/
structure MetricPoint (ν : Type) where
  timestamp : Instant
  value : ν
  deriving Repr, DecidableEq

namespace Store

variable {ρ ν : Type} [Stored ρ (Sample ν)]

/-- The samples of the window of a given length that ends at `now`. -/
def windowSamples (window : Span) (now : Instant) : StoreM ρ (List (Sample ν)) :=
  samplesBetween (now.windowStart window) now

/-- The values of a metric in the last samples, newest first. -/
def recentPoints (metric : Metric) (count : Nat) : StoreM ρ (List (MetricPoint ν)) := do
  let samples ← recentSamples count
  return samples.map fun sample => { timestamp := sample.timestamp, value := metric.valueOf sample }

variable [Scalar ν]

/-- The mean of every metric over a window. -/
def averages (window : Span) (now : Instant) : StoreM ρ (PerMetric ν) := do
  return FlowAudit.averages (← windowSamples window now) window now

/-- Whether a metric stayed over a threshold during a window. -/
def sustained (metric : Metric) (threshold : ν) (window : Span) (now : Instant) :
    StoreM ρ (SustainedCheck ν) := do
  return FlowAudit.sustained (← windowSamples window now) metric threshold window now

/-- The trend of a metric over a window. -/
def trend (ν : Type) [Stored ρ (Sample ν)] [Scalar ν] (metric : Metric) (window : Span)
    (now : Instant) : StoreM ρ Trend := do
  let samples : List (Sample ν) ← windowSamples window now
  return FlowAudit.trend samples metric window now

end Store

end FlowAudit
