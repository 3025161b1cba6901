import FlowAudit.Command.Error
import FlowAudit.Command.Grammar
import FlowAudit.Command.Help
import FlowAudit.Command.Host
import FlowAudit.Command.Init
import FlowAudit.Command.Invocation
import FlowAudit.Command.Reader
import FlowAudit.Command.Run
import FlowAudit.Command.Scan
import FlowAudit.Command.Session
import FlowAudit.Command.Usage
import FlowAudit.Command.Watch
import FlowAudit.Export.Basic
import FlowAudit.Health.Alert
import FlowAudit.Health.Codec
import FlowAudit.Health.Monitor
import FlowAudit.Health.Process
import FlowAudit.Health.Retention
import FlowAudit.Health.Sample
import FlowAudit.Health.Sampler
import FlowAudit.Health.Statistics
import FlowAudit.Health.Window
import FlowAudit.Issue.Basic
import FlowAudit.Issue.Kind
import FlowAudit.Json.Codec
import FlowAudit.Json.Decode
import FlowAudit.Json.Syntax
import FlowAudit.Json.Value
import FlowAudit.Json.Writer
import FlowAudit.Log.Basic
import FlowAudit.Log.File
import FlowAudit.Log.JsonRow
import FlowAudit.Log.Query
import FlowAudit.Log.Store
import FlowAudit.Main
import FlowAudit.Number.Binary
import FlowAudit.Number.Decimal
import FlowAudit.Number.Numeral
import FlowAudit.Number.Scalar
import FlowAudit.Number.Total
import FlowAudit.Number.Word
import FlowAudit.Pass.Flight
import FlowAudit.Pass.Readiness
import FlowAudit.Pass.Run
import FlowAudit.Proofs.Health.Alerting
import FlowAudit.Proofs.Health.Check
import FlowAudit.Proofs.Health.Pruning
import FlowAudit.Proofs.Health.Retention
import FlowAudit.Proofs.Health.Statistics
import FlowAudit.Proofs.Json.Decode
import FlowAudit.Proofs.Json.Reader
import FlowAudit.Proofs.Json.Writer
import FlowAudit.Proofs.Log.Actions
import FlowAudit.Proofs.Log.Alike
import FlowAudit.Proofs.Log.Expiry
import FlowAudit.Proofs.Log.Insertion
import FlowAudit.Proofs.Log.Interleaving
import FlowAudit.Proofs.Log.Latest
import FlowAudit.Proofs.Log.Lookup
import FlowAudit.Proofs.Log.Removal
import FlowAudit.Proofs.Log.Samples
import FlowAudit.Proofs.Log.Session
import FlowAudit.Proofs.Number.Exact
import FlowAudit.Proofs.Number.Order
import FlowAudit.Proofs.Number.Real
import FlowAudit.Proofs.Number.Total
import FlowAudit.Proofs.Order.StableSort
import FlowAudit.Proofs.Pass.Account
import FlowAudit.Proofs.Pass.Grouping
import FlowAudit.Proofs.Pass.History
import FlowAudit.Proofs.Pass.Retry
import FlowAudit.Proofs.Pass.SingleFlight
import FlowAudit.Proofs.Record.Calendar
import FlowAudit.Proofs.Record.Kept
import FlowAudit.Proofs.Record.RoundTrip
import FlowAudit.Proofs.Report.Group
import FlowAudit.Proofs.Rule.BareReturn
import FlowAudit.Proofs.Rule.Catalog
import FlowAudit.Proofs.Rule.Contents
import FlowAudit.Proofs.Rule.LineByLine
import FlowAudit.Proofs.Rule.Report
import FlowAudit.Proofs.Rule.TopLevelReturn
import FlowAudit.Proofs.Score.Aggregate
import FlowAudit.Proofs.Score.Complexity
import FlowAudit.Proofs.Score.Levels
import FlowAudit.Proofs.Score.Penalty
import FlowAudit.Proofs.Source.Depth
import FlowAudit.Proofs.Source.Enclosure
import FlowAudit.Proofs.Source.Juncture
import FlowAudit.Proofs.Source.LineEnding
import FlowAudit.Proofs.Source.Nesting
import FlowAudit.Proofs.Source.Position
import FlowAudit.Proofs.Text.Utf8
import FlowAudit.Proofs.Time.Hour
import FlowAudit.Proofs.Time.Order
import FlowAudit.Proofs.Time.Window
import FlowAudit.Record.Codec
import FlowAudit.Record.Group
import FlowAudit.Record.Unit
import FlowAudit.Render.Activity
import FlowAudit.Render.Format
import FlowAudit.Render.Health
import FlowAudit.Render.Page
import FlowAudit.Render.Quality
import FlowAudit.Render.Word
import FlowAudit.Report.Activity
import FlowAudit.Report.Alert
import FlowAudit.Report.Group
import FlowAudit.Report.History
import FlowAudit.Report.Issue
import FlowAudit.Report.Performance
import FlowAudit.Report.Summary
import FlowAudit.Report.Unit
import FlowAudit.Rule.BareReturn
import FlowAudit.Rule.Binding
import FlowAudit.Rule.Call
import FlowAudit.Rule.Detect
import FlowAudit.Rule.EmptyLines
import FlowAudit.Rule.Marker
import FlowAudit.Rule.Placeholder
import FlowAudit.Rule.Word
import FlowAudit.Score.Complexity
import FlowAudit.Score.Grade
import FlowAudit.Score.Quality
import FlowAudit.Settings.Basic
import FlowAudit.Settings.Codec
import FlowAudit.Settings.Environment
import FlowAudit.Settings.Error
import FlowAudit.Settings.Example
import FlowAudit.Settings.File
import FlowAudit.Settings.Load
import FlowAudit.Source.Line
import FlowAudit.Source.Mask
import FlowAudit.Source.RegexLiteral
import FlowAudit.Text.Class
import FlowAudit.Text.Hex
import FlowAudit.Text.HiddenRanges
import FlowAudit.Text.LetterRanges
import FlowAudit.Text.Path
import FlowAudit.Text.Quoted
import FlowAudit.Text.Reader
import FlowAudit.Text.Utf8
import FlowAudit.Time.Civil
import FlowAudit.Time.Instant
import FlowAudit.Time.Layout
import FlowAudit.Time.Reader
import FlowAudit.Time.Span
import FlowAudit.Toml.Lexeme
import FlowAudit.Toml.Reader
import FlowAudit.Toml.Table
import FlowAudit.Toml.Value
import FlowAudit.Workspace.Basic
import FlowAudit.Workspace.Fault
import FlowAudit.Workspace.Tree
import FlowAudit.Proofs.Rule.Identifier
import FlowAudit.Proofs.Source.Literal
import FlowAudit.Proofs.Health.RetentionDays
import FlowAudit.Proofs.Report.History
import FlowAudit.Proofs.Pass.Repeat
import FlowAudit.Proofs.Report.Summary
import FlowAudit.Proofs.Health.Sustained
import FlowAudit.Proofs.Health.Sampler
import FlowAudit.Proofs.Report.Grade
import FlowAudit.Proofs.Pass.Readiness
import FlowAudit.Proofs.Rule.EmptyLines
import FlowAudit.Proofs.Settings.Precedence
import FlowAudit.Proofs.Rule.Binding
import FlowAudit.Proofs.Source.RegexLiteral
import FlowAudit.Proofs.Health.Trend
import FlowAudit.Proofs.Rule.ControlHeader
import FlowAudit.Proofs.Render.Colors
