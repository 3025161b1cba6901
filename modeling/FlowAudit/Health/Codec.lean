import FlowAudit.Health.Retention
import FlowAudit.Health.Statistics
import FlowAudit.Record.Codec

/-!
# FlowAudit.Health.Codec

The statistics of samples and the counts of stored records in JSON.
-/

namespace FlowAudit

open Json Json.Decode

instance : ToValue Trend := ⟨fun trend => .string trend.name⟩

instance : OfTree Trend := ⟨oneOf Trend.all Trend.name⟩

instance : ToValue (Tables Nat) where
  toValue counts := .object
    [("units", .nat counts.units), ("groups", .nat counts.groups),
      ("samples", .nat counts.samples), ("alerts", .nat counts.alerts)]

instance : OfTree (Tables Nat) where
  decode := record ["units", "groups", "samples", "alerts"] do
    return { units := ← required Decode.count
             groups := ← required Decode.count
             samples := ← required Decode.count
             alerts := ← required Decode.count }

instance : ToValue PruneCounts where
  toValue counts := .object [("samples", .nat counts.samples), ("alerts", .nat counts.alerts)]

instance : OfTree PruneCounts where
  decode := record ["samples", "alerts"] do
    return { samples := ← required Decode.count, alerts := ← required Decode.count }

variable {ν : Type}

instance {α : Type} [ToValue α] : ToValue (PerMetric α) where
  toValue things := .object
    [("cpu", toValue things.cpu), ("memory", toValue things.memory),
      ("eventLoop", toValue things.eventLoop)]

instance {α : Type} [OfTree α] : OfTree (PerMetric α) where
  decode := record ["cpu", "memory", "eventLoop"] do
    return { cpu := ← required OfTree.decode
             memory := ← required OfTree.decode
             eventLoop := ← required OfTree.decode }

instance [ToValue ν] : ToValue (SustainedCheck ν) where
  toValue check := .object
    [("sustained", .bool check.sustained), ("ratio", toValue check.ratio),
      ("totalReadings", .nat check.total), ("exceedingReadings", .nat check.exceeding),
      ("mean", toValue check.mean)]

instance [OfTree ν] : OfTree (SustainedCheck ν) where
  decode := record ["sustained", "ratio", "totalReadings", "exceedingReadings", "mean"] do
    return { sustained := ← required bool
             ratio := ← required OfTree.decode
             total := ← required Decode.count
             exceeding := ← required Decode.count
             mean := ← required OfTree.decode }

instance [ToValue ν] : ToValue (MetricPoint ν) where
  toValue point := .object
    [("timestamp", toValue point.timestamp), ("value", toValue point.value)]

instance [OfTree ν] : OfTree (MetricPoint ν) where
  decode := record ["timestamp", "value"] do
    return { timestamp := ← required OfTree.decode, value := ← required OfTree.decode }

end FlowAudit
