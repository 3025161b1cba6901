import FlowAudit.Health.Sample
import FlowAudit.Number.Scalar

/-!
# FlowAudit.Health.Window

Statistics over the samples of a window of time that ends now: means, whether a metric stayed over
its threshold, and which way it moves.

A metric stayed over its threshold when more than four fifths of the samples are above it; a window
without samples never counts. A trend compares the means of the two halves of a series, and a change
of less than five percent of the first one is none.
-/

namespace FlowAudit

variable {ν : Type}

/-- The samples of the window of a given length that ends at `now`, oldest first. Both ends of the
window belong to it. -/
def inWindow (samples : List (Sample ν)) (window : Span) (now : Instant) : List (Sample ν) :=
  (samples.filter fun s => s.timestamp.between (now.windowStart window) now).mergeSort
    fun a b => a.timestamp ≤ b.timestamp

/-- The result of asking whether a metric stayed over its threshold. -/
structure SustainedCheck (ν : Type) where
  sustained : Bool
  /-- The share of the samples above the threshold. -/
  ratio : ν
  total : Nat
  exceeding : Nat
  /-- The mean of the metric over the window. -/
  mean : ν
  deriving Repr, DecidableEq

/-- Which way a metric moves. -/
inductive Trend where
  | increasing
  | decreasing
  | stable
  | insufficientData
  deriving Repr, DecidableEq

namespace Trend

def all : List Trend := [increasing, decreasing, stable, insufficientData]

def name : Trend → String
  | increasing => "increasing"
  | decreasing => "decreasing"
  | stable => "stable"
  | insufficientData => "insufficient_data"

end Trend

variable [Scalar ν]

/-- The share of samples that has to be exceeded. -/
def sustainedShare : ν := Scalar.ratio 8 10

/-- The change in percent that a trend needs. -/
def stableChange : ν := Scalar.ofNat 5

/-- The mean of every metric over a window; zeros when there is no sample in it. -/
def averages (samples : List (Sample ν)) (window : Span) (now : Instant) : PerMetric ν :=
  .tabulate fun metric => Scalar.mean ((inWindow samples window now).map metric.valueOf)

/-- Whether a metric stayed over a threshold during a window. -/
def sustained (samples : List (Sample ν)) (metric : Metric) (threshold : ν) (window : Span)
    (now : Instant) : SustainedCheck ν :=
  let values := (inWindow samples window now).map metric.valueOf
  let total := values.length
  let exceeding := values.countP (Scalar.lt threshold)
  if total = 0 then
    { sustained := false, ratio := Scalar.ofNat 0, total := 0, exceeding := 0
      mean := Scalar.ofNat 0 }
  else
    let ratio := Scalar.ofNat exceeding / Scalar.ofNat total
    { sustained := Scalar.lt sustainedShare ratio, ratio, total, exceeding
      mean := Scalar.mean values }

/-- The trend of a series, oldest value first. The first half is the shorter one when they differ. A
first half with mean zero moves with the sign of the second. -/
def classifyTrend (values : List ν) : Trend :=
  if values.length < 2 then .insufficientData
  else
    let first := Scalar.mean (values.take (values.length / 2))
    let second := Scalar.mean (values.drop (values.length / 2))
    let zero := Scalar.ofNat 0
    if Scalar.eq first zero then
      if Scalar.eq second zero then .stable
      else if Scalar.lt zero second then .increasing
      else .decreasing
    else
      let change := (second - first) / Scalar.abs first * Scalar.ofNat 100
      if Scalar.lt (Scalar.abs change) stableChange then .stable
      else if Scalar.lt zero change then .increasing
      else .decreasing

/-- The trend of a metric over a window. -/
def trend (samples : List (Sample ν)) (metric : Metric) (window : Span) (now : Instant) : Trend :=
  classifyTrend ((inWindow samples window now).map metric.valueOf)

end FlowAudit
