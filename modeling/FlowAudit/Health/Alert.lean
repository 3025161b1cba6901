import FlowAudit.Health.Sample
import FlowAudit.Number.Scalar

/-!
# FlowAudit.Health.Alert

The record of a metric that stayed over its threshold, and how severe that is.
-/

namespace FlowAudit

/-- How severe an alert is, least first. -/
inductive AlertSeverity where
  | info
  | warning
  | critical
  deriving Repr, DecidableEq

namespace AlertSeverity

def all : List AlertSeverity := [info, warning, critical]

def name : AlertSeverity → String
  | info => "info"
  | warning => "warning"
  | critical => "critical"

end AlertSeverity

/-- A metric that stayed over its threshold. -/
structure Alert (ν : Type) where
  metric : Metric
  threshold : ν
  /-- The mean of the metric over the time it was watched. -/
  actual : ν
  durationMinutes : ν
  createdAt : Instant
  deriving Repr, DecidableEq

/-- The severity of a value over a threshold: critical from one and a half times the threshold on,
a warning from one and a fifth times on. A threshold that is not positive is always critically
exceeded. -/
def alertSeverity {ν : Type} [Scalar ν] (actual threshold : ν) : AlertSeverity :=
  if Scalar.le threshold (Scalar.ofNat 0) then .critical
  else
    let overshoot := actual / threshold
    if Scalar.le (Scalar.ratio 15 10) overshoot then .critical
    else if Scalar.le (Scalar.ratio 12 10) overshoot then .warning
    else .info

def Alert.severity {ν : Type} [Scalar ν] (alert : Alert ν) : AlertSeverity :=
  alertSeverity alert.actual alert.threshold

end FlowAudit
