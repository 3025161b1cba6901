/-!
# FlowAudit.Settings.Example

A file of settings to start from. It sets everything to what holds without it.
-/

namespace FlowAudit.Settings

/-- The lines of an example file. -/
def exampleLines : List String :=
  ["# flowsentry configuration",
    "#",
    "# Environment variables (FLOWSENTRY_DETECTION_LEVEL, FLOWSENTRY_CPU_THRESHOLD,",
    "# ...) override anything set here.",
    "",
    "# Code analysis",
    "codeAnalysis = true",
    "scanInterval = 30        # seconds between scans, 0 disables",
    "detectionLevel = 1       # 1 = critical only, 2 = + logging/markers, 3 = everything",
    "",
    "# Performance monitoring",
    "performanceMonitoring = false",
    "performanceInterval = 10 # seconds between samples, 0 disables",
    "cpuThreshold = 75        # percent",
    "memoryThreshold = 80     # percent",
    "eventLoopThreshold = 20  # milliseconds",
    "sustainedAlertDuration = 300",
    "alertCooldown = 1800",
    "dbRetentionDays = 7",
    "",
    "# databasePath = \"flowsentry.redb\"",
    "",
    "# [gradeBands]",
    "# a = 90",
    "# b = 75",
    "# c = 50",
    "# d = 25"]

/-- The text of an example file. -/
def exampleText : String :=
  String.join (exampleLines.map (· ++ "\n"))

end FlowAudit.Settings
