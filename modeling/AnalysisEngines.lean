import AnalysisEngines.Batch
import AnalysisEngines.Batch.Basic
import AnalysisEngines.Batch.Log
import AnalysisEngines.Batch.Schedule
import AnalysisEngines.CommandLine.Invocation
import AnalysisEngines.CommandLine.Options
import AnalysisEngines.CommandLine.Program
import AnalysisEngines.CommandLine.Session
import AnalysisEngines.Configuration
import AnalysisEngines.Console.CellWidth
import AnalysisEngines.Console.Emoji
import AnalysisEngines.Console.EmojiTable
import AnalysisEngines.Console.Layout
import AnalysisEngines.Console.Markup
import AnalysisEngines.Console.Printing
import AnalysisEngines.Console.StyleName
import AnalysisEngines.Container.Client
import AnalysisEngines.Container.Command
import AnalysisEngines.Container.Name
import AnalysisEngines.Failure
import AnalysisEngines.Files.Basic
import AnalysisEngines.Files.Path
import AnalysisEngines.Installation
import AnalysisEngines.Json.Reading
import AnalysisEngines.Json.Writing
import AnalysisEngines.Listener
import AnalysisEngines.Location.Basic
import AnalysisEngines.Location.Description
import AnalysisEngines.Log.Entry
import AnalysisEngines.Log.Journal
import AnalysisEngines.Log.Scope
import AnalysisEngines.Main
import AnalysisEngines.Metrics.Labels
import AnalysisEngines.Metrics.Store
import AnalysisEngines.Number.Basic
import AnalysisEngines.Number.Binary64
import AnalysisEngines.Number.Reading
import AnalysisEngines.Number.Shortest
import AnalysisEngines.Proofs.Batch.Bookkeeping
import AnalysisEngines.Proofs.Batch.Cancellation
import AnalysisEngines.Proofs.Batch.Performance
import AnalysisEngines.Proofs.Batch.Report
import AnalysisEngines.Proofs.Batch.Schedule
import AnalysisEngines.Proofs.Composition
import AnalysisEngines.Proofs.Listener
import AnalysisEngines.Proofs.Run.Activity
import AnalysisEngines.Proofs.Run.Announcement
import AnalysisEngines.Proofs.Run.Cancellation
import AnalysisEngines.Proofs.Run.Classification
import AnalysisEngines.Proofs.Run.Clock
import AnalysisEngines.Proofs.Run.Execution
import AnalysisEngines.Proofs.Run.Milestones
import AnalysisEngines.Proofs.Run.Nature
import AnalysisEngines.Proofs.Run.Output
import AnalysisEngines.Proofs.Run.Passage
import AnalysisEngines.Proofs.Run.Process
import AnalysisEngines.Proofs.Run.Race
import AnalysisEngines.Proofs.Run.Starting
import AnalysisEngines.Proofs.Run.Stopping
import AnalysisEngines.Proofs.Run.Supervision
import AnalysisEngines.Proofs.Run.Termination
import AnalysisEngines.Proofs.Run.Waiting
import AnalysisEngines.Registry.Basic
import AnalysisEngines.Registry.Manifest
import AnalysisEngines.Run.Capture
import AnalysisEngines.Run.Clock
import AnalysisEngines.Run.Execution
import AnalysisEngines.Run.Limits
import AnalysisEngines.Run.Notice
import AnalysisEngines.Run.Process
import AnalysisEngines.Run.Race
import AnalysisEngines.Run.Result
import AnalysisEngines.Run.Scene
import AnalysisEngines.Run.Scope
import AnalysisEngines.Run.Spec
import AnalysisEngines.Run.Stopping
import AnalysisEngines.Settings.Basic
import AnalysisEngines.Settings.EnvFile
import AnalysisEngines.SourceBuffer
import AnalysisEngines.Text.Blank
import AnalysisEngines.Text.LetterCase
import AnalysisEngines.Text.Printable
import AnalysisEngines.Text.Quoted
import AnalysisEngines.Text.Utf8
import AnalysisEngines.Validation
import AnalysisEngines.Value.Basic
import AnalysisEngines.Value.Display
import AnalysisEngines.Yaml.Cursor
import AnalysisEngines.Yaml.Fault
import AnalysisEngines.Yaml.Load
import AnalysisEngines.Yaml.Node.Basic
import AnalysisEngines.Yaml.Node.Grammar
import AnalysisEngines.Yaml.Node.Implicit
import AnalysisEngines.Yaml.Node.Meaning
import AnalysisEngines.Yaml.Node.Scalar
import AnalysisEngines.Yaml.Scalar.Block
import AnalysisEngines.Yaml.Scalar.Plain
import AnalysisEngines.Yaml.Scalar.Quoted
import AnalysisEngines.Yaml.Token.Basic
import AnalysisEngines.Yaml.Token.Lexer
import AnalysisEngines.Yaml.Token.Mark
import AnalysisEngines.Proofs.Batch.Occupancy
import AnalysisEngines.Proofs.Run.Reaching
import AnalysisEngines.Proofs.Run.Stranding
import AnalysisEngines.Proofs.Run.Postponement
import AnalysisEngines.Proofs.Run.Lockstep
import AnalysisEngines.Proofs.Batch.Independence
import AnalysisEngines.Proofs.Run.Writing
import AnalysisEngines.Proofs.Run.Streaming
import AnalysisEngines.Proofs.Run.Delivery
import AnalysisEngines.Proofs.Configuration.Merging
import AnalysisEngines.Proofs.Installation
import AnalysisEngines.Proofs.NameOrder
import AnalysisEngines.Proofs.Metrics.Buckets
import AnalysisEngines.Proofs.Metrics.Labels
import AnalysisEngines.Proofs.Metrics.Store
import AnalysisEngines.Proofs.Metrics.History
import AnalysisEngines.Proofs.Metrics.Reading
import AnalysisEngines.Proofs.Metrics.Reference
import AnalysisEngines.Proofs.Number.Binary64
import AnalysisEngines.Proofs.Metrics.Measuring
import AnalysisEngines.Proofs.Batch.Telling
import AnalysisEngines.Proofs.Batch.Accounting
import AnalysisEngines.Proofs.Log.Scope
import AnalysisEngines.Proofs.Log.Isolation
import AnalysisEngines.Proofs.Run.Scope
import AnalysisEngines.Proofs.Batch.Chronology
import AnalysisEngines.Proofs.Batch.Attribution
import AnalysisEngines.Proofs.Batch.Logging
import AnalysisEngines.Proofs.Run.Secrecy
import AnalysisEngines.Proofs.Run.Signals
import AnalysisEngines.Proofs.Run.Duration
import AnalysisEngines.Proofs.Run.ConsumerFailure
import AnalysisEngines.Proofs.Configuration.Precedence
import AnalysisEngines.Proofs.Configuration.Channels
import AnalysisEngines.Proofs.Collection
import AnalysisEngines.Proofs.Text.Utf8
import AnalysisEngines.Proofs.Files
import AnalysisEngines.Proofs.Registry.Manifest
import AnalysisEngines.Proofs.Registry.Document
import AnalysisEngines.Proofs.Configuration.Acceptance
import AnalysisEngines.Proofs.CommandLine.Loading
import AnalysisEngines.Proofs.SourceBuffer.Lines
import AnalysisEngines.Proofs.Location.Rendering
import AnalysisEngines.Proofs.SourceBuffer.LineCount
import AnalysisEngines.Proofs.Location.Parsing
import AnalysisEngines.Proofs.Location.Description
import AnalysisEngines.Proofs.Dispatch
import AnalysisEngines.Proofs.Number.Order
import AnalysisEngines.Proofs.Metrics.Histogram
import AnalysisEngines.Proofs.Metrics.Refusal
import AnalysisEngines.Proofs.Failure
import AnalysisEngines.Proofs.Container.Command
import AnalysisEngines.Proofs.Run.ContainerStop
import AnalysisEngines.Proofs.Run.ErrorTail
import AnalysisEngines.Proofs.Value.Entries
import AnalysisEngines.Proofs.Container.Name
import AnalysisEngines.Proofs.Run.Observation
import AnalysisEngines.Proofs.Console.Emoji
import AnalysisEngines.Proofs.Console.Markup
import AnalysisEngines.Proofs.Console.Escaping
import AnalysisEngines.Proofs.Console.PlainText
import AnalysisEngines.Proofs.Console.Layout
import AnalysisEngines.Proofs.CommandLine.Installing
import AnalysisEngines.Proofs.CommandLine.Reporting
