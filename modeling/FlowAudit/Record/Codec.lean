import FlowAudit.Health.Alert
import FlowAudit.Json.Codec
import FlowAudit.Record.Group
import FlowAudit.Score.Grade
import FlowAudit.Time.Reader

/-!
# FlowAudit.Record.Codec

The records of the library in JSON, and what they are made of. Records are objects with the fields in
the order of their declaration; words stand for themselves; instants are texts. Counts take
sixty-four bits and line numbers thirty-two.
-/

namespace FlowAudit

open Json Json.Decode

instance : ToValue Instant := ⟨fun t => .string t.text⟩

instance : OfTree Instant where
  decode tree := do Instant.ofText? (← string tree)

instance : ToValue Severity := ⟨fun severity => .string severity.name⟩

instance : OfTree Severity := ⟨oneOf Severity.all Severity.name⟩

instance : ToValue Kind := ⟨fun kind => .string kind.tag⟩

instance : OfTree Kind := ⟨oneOf Kind.all Kind.tag⟩

instance : ToValue Level := ⟨fun level => .nat level.number⟩

instance : OfTree Level where
  decode tree := (int64 tree).map Level.ofInt

instance : ToValue Metric := ⟨fun metric => .string metric.name⟩

instance : OfTree Metric := ⟨oneOf Metric.all Metric.name⟩

instance : ToValue AlertSeverity := ⟨fun severity => .string severity.name⟩

instance : OfTree AlertSeverity := ⟨oneOf AlertSeverity.all AlertSeverity.name⟩

instance : ToValue Grade := ⟨fun grade => .string grade.letter⟩

instance : OfTree Grade := ⟨oneOf Grade.all Grade.letter⟩

instance : ToValue BadgeColor := ⟨fun color => .string color.name⟩

instance : OfTree BadgeColor := ⟨oneOf BadgeColor.all BadgeColor.name⟩

instance : ToValue Issue where
  toValue issue := .object
    [("type", toValue issue.kind), ("message", .string issue.message), ("line", toValue issue.line)]

instance : OfTree Issue where
  decode := record ["type", "message", "line"] do
    return { kind := ← required OfTree.decode
             message := ← required string
             line := ← withDefault none (option (nat 32)) }

instance : ToValue SeverityCounts where
  toValue counts := .object
    [("critical", .nat counts.critical), ("warning", .nat counts.warning),
      ("info", .nat counts.info), ("total", .nat counts.total)]

instance : OfTree SeverityCounts where
  decode := record ["critical", "warning", "info", "total"] do
    return { critical := ← required count
             warning := ← required count
             info := ← required count
             total := ← required count }

instance : ToValue Status where
  toValue status := .object [("color", toValue status.color), ("text", .string status.text)]

instance : OfTree Status where
  decode := record ["color", "text"] do
    return { color := ← required OfTree.decode, text := ← required string }

variable {ν : Type}

instance [ToValue ν] : ToValue (GradeBands ν) where
  toValue bands := .object
    [("a", toValue bands.a), ("b", toValue bands.b), ("c", toValue bands.c),
      ("d", toValue bands.d)]

/-- A bound that is not given is the standard one. -/
instance [Scalar ν] [OfTree ν] : OfTree (GradeBands ν) where
  decode := record ["a", "b", "c", "d"] do
    let standard : GradeBands ν := .standard
    return { a := ← withDefault standard.a OfTree.decode
             b := ← withDefault standard.b OfTree.decode
             c := ← withDefault standard.c OfTree.decode
             d := ← withDefault standard.d OfTree.decode }

namespace KindCounts

/-- Counts as an object with a member for each kind. -/
def toValue (counts : KindCounts) : Value :=
  .object (counts.map fun (kind, n) => (kind.tag, .nat n))

/-- Counts in catalog order; of several for one kind the last is taken. -/
def ofMembers (members : List (Kind × Nat)) : KindCounts :=
  Kind.all.filterMap fun kind => members.reverse.find? (·.1 = kind)

def decode : Decoder KindCounts
  | .object members => do
    let members ← members.mapM fun (key, value) => do
      let kind ← Kind.ofTag? (← Contents.string? key)
      return (kind, ← count value)
    return ofMembers members
  | _ => none

end KindCounts

instance [ToValue ν] : ToValue (UnitRecord ν) where
  toValue unit := .object
    [("id", .string unit.id), ("groupId", .string unit.groupId), ("name", .string unit.name),
      ("linesOfCode", .nat unit.linesOfCode), ("complexityScore", toValue unit.complexityScore),
      ("qualityScore", toValue unit.qualityScore), ("issues", toValue unit.issues),
      ("createdAt", toValue unit.createdAt)]

instance [OfTree ν] : OfTree (UnitRecord ν) where
  decode :=
    record ["id", "groupId", "name", "linesOfCode", "complexityScore", "qualityScore", "issues",
        "createdAt"] do
      return { id := ← required string
               groupId := ← required string
               name := ← required string
               linesOfCode := ← required count
               complexityScore := ← required OfTree.decode
               qualityScore := ← required OfTree.decode
               issues := ← required OfTree.decode
               createdAt := ← required OfTree.decode }

instance [ToValue ν] : ToValue (GroupRecord ν) where
  toValue group := .object
    [("id", .string group.id), ("name", .string group.name),
      ("totalIssues", .nat group.totalIssues), ("nodesWithIssues", .nat group.nodesWithIssues),
      ("nodesWithCriticalIssues", .nat group.nodesWithCriticalIssues),
      ("totalUnits", .nat group.totalUnits), ("issueTypes", group.issueTypes.toValue),
      ("qualityScore", toValue group.qualityScore),
      ("complexityScore", toValue group.complexityScore), ("createdAt", toValue group.createdAt)]

instance [OfTree ν] : OfTree (GroupRecord ν) where
  decode :=
    record ["id", "name", "totalIssues", "nodesWithIssues", "nodesWithCriticalIssues",
        "totalUnits", "issueTypes", "qualityScore", "complexityScore", "createdAt"] do
      return { id := ← required string
               name := ← required string
               totalIssues := ← required count
               nodesWithIssues := ← required count
               nodesWithCriticalIssues := ← required count
               totalUnits := ← required count
               issueTypes := ← withDefault [] KindCounts.decode
               qualityScore := ← required OfTree.decode
               complexityScore := ← required OfTree.decode
               createdAt := ← required OfTree.decode }

instance [ToValue ν] : ToValue (Sample ν) where
  toValue sample := .object
    [("timestamp", toValue sample.timestamp), ("cpuPercent", toValue sample.cpuPercent),
      ("memoryPercent", toValue sample.memoryPercent), ("memoryRssBytes", .nat sample.memoryBytes),
      ("eventLoopLagMs", toValue sample.eventLoopLagMs)]

instance [OfTree ν] : OfTree (Sample ν) where
  decode :=
    record ["timestamp", "cpuPercent", "memoryPercent", "memoryRssBytes", "eventLoopLagMs"] do
      return { timestamp := ← required OfTree.decode
               cpuPercent := ← required OfTree.decode
               memoryPercent := ← required OfTree.decode
               memoryBytes := ← required count
               eventLoopLagMs := ← required OfTree.decode }

instance [ToValue ν] : ToValue (Alert ν) where
  toValue alert := .object
    [("metricType", toValue alert.metric), ("thresholdValue", toValue alert.threshold),
      ("actualValue", toValue alert.actual), ("durationMinutes", toValue alert.durationMinutes),
      ("createdAt", toValue alert.createdAt)]

instance [OfTree ν] : OfTree (Alert ν) where
  decode :=
    record ["metricType", "thresholdValue", "actualValue", "durationMinutes", "createdAt"] do
      return { metric := ← required OfTree.decode
               threshold := ← required OfTree.decode
               actual := ← required OfTree.decode
               durationMinutes := ← required OfTree.decode
               createdAt := ← required OfTree.decode }

end FlowAudit
