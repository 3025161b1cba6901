import FlowAudit.Record.Codec
import FlowAudit.Settings.Basic

/-!
# FlowAudit.Settings.Codec

Settings in JSON. Settings in force fall back on the standard ones key by key; what one source sets
has every key or `null` in its place.
-/

namespace FlowAudit

open Json Json.Decode

variable {ν : Type}

/-- The keys of settings. -/
def settingsKeys : List String :=
  ["codeAnalysis", "scanInterval", "detectionLevel", "performanceMonitoring",
    "performanceInterval", "cpuThreshold", "memoryThreshold", "eventLoopThreshold",
    "sustainedAlertDuration", "alertCooldown", "dbRetentionDays", "gradeBands", "databasePath"]

instance [ToValue ν] : ToValue (Settings ν) where
  toValue s := .object <| settingsKeys.zip
    [toValue s.codeAnalysis, toValue s.scanInterval, toValue s.detectionLevel,
      toValue s.performanceMonitoring, toValue s.performanceInterval, toValue s.cpuThreshold,
      toValue s.memoryThreshold, toValue s.eventLoopThreshold, toValue s.sustainedAlertDuration,
      toValue s.alertCooldown, toValue s.retentionDays, toValue s.gradeBands,
      toValue s.databasePath]

instance [Scalar ν] [OfTree ν] : OfTree (Settings ν) where
  decode := record settingsKeys do
    let standard : Settings ν := .standard
    return {
      codeAnalysis := ← withDefault standard.codeAnalysis bool
      scanInterval := ← withDefault standard.scanInterval int64
      detectionLevel := ← withDefault standard.detectionLevel OfTree.decode
      performanceMonitoring := ← withDefault standard.performanceMonitoring bool
      performanceInterval := ← withDefault standard.performanceInterval int64
      cpuThreshold := ← withDefault standard.cpuThreshold OfTree.decode
      memoryThreshold := ← withDefault standard.memoryThreshold OfTree.decode
      eventLoopThreshold := ← withDefault standard.eventLoopThreshold OfTree.decode
      sustainedAlertDuration := ← withDefault standard.sustainedAlertDuration int64
      alertCooldown := ← withDefault standard.alertCooldown int64
      retentionDays := ← withDefault standard.retentionDays int64
      gradeBands := ← withDefault standard.gradeBands OfTree.decode
      databasePath := ← withDefault standard.databasePath (option string) }

instance [ToValue ν] : ToValue (Overrides ν) where
  toValue o := .object <| settingsKeys.zip
    [toValue o.codeAnalysis, toValue o.scanInterval, toValue o.detectionLevel,
      toValue o.performanceMonitoring, toValue o.performanceInterval, toValue o.cpuThreshold,
      toValue o.memoryThreshold, toValue o.eventLoopThreshold, toValue o.sustainedAlertDuration,
      toValue o.alertCooldown, toValue o.retentionDays, toValue o.gradeBands,
      toValue o.databasePath]

instance [Scalar ν] [OfTree ν] : OfTree (Overrides ν) where
  decode := record settingsKeys do
    return {
      codeAnalysis := ← Decode.optional bool
      scanInterval := ← Decode.optional int64
      detectionLevel := ← Decode.optional OfTree.decode
      performanceMonitoring := ← Decode.optional bool
      performanceInterval := ← Decode.optional int64
      cpuThreshold := ← Decode.optional OfTree.decode
      memoryThreshold := ← Decode.optional OfTree.decode
      eventLoopThreshold := ← Decode.optional OfTree.decode
      sustainedAlertDuration := ← Decode.optional int64
      alertCooldown := ← Decode.optional int64
      retentionDays := ← Decode.optional int64
      gradeBands := ← Decode.optional OfTree.decode
      databasePath := ← Decode.optional string }

end FlowAudit
