import FlowAudit.Log.Query
import FlowAudit.Record.Codec

/-!
# FlowAudit.Report.Alert

Alerts as reports show them, with their severity and with values to two places.
-/

namespace FlowAudit

open Json

/-- An alert with its severity. -/
structure AlertView (ν : Type) where
  metric : Metric
  threshold : ν
  actual : ν
  durationMinutes : ν
  severity : AlertSeverity
  createdAt : Instant
  deriving Repr, DecidableEq

/-- The last alerts, newest first. -/
structure AlertListing (ν : Type) where
  alerts : List (AlertView ν)
  deriving Repr, DecidableEq

variable {ρ ν : Type}

/-- An alert as reports show it. -/
def Alert.view [Scalar ν] (alert : Alert ν) : AlertView ν where
  metric := alert.metric
  threshold := alert.threshold
  actual := Scalar.round2 alert.actual
  durationMinutes := Scalar.round2 alert.durationMinutes
  severity := alert.severity
  createdAt := alert.createdAt

/-- The last alerts of a store. -/
def Store.alertListing [Scalar ν] [Stored ρ (Alert ν)] (limit : Nat) :
    StoreM ρ (AlertListing ν) := do
  return { alerts := (← Store.recentAlerts limit).map Alert.view }

instance [ToValue ν] : ToValue (AlertView ν) where
  toValue alert := .object
    [("metricType", toValue alert.metric), ("thresholdValue", toValue alert.threshold),
      ("actualValue", toValue alert.actual), ("durationMinutes", toValue alert.durationMinutes),
      ("severity", toValue alert.severity), ("createdAt", toValue alert.createdAt)]

instance [ToValue ν] : ToValue (AlertListing ν) where
  toValue listing := .object
    [("count", .nat listing.alerts.length), ("alerts", toValue listing.alerts)]

end FlowAudit
