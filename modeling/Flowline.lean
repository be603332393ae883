import Flowline.Action
import Flowline.Calendar.Date
import Flowline.CommandLine.Arguments
import Flowline.CommandLine.FlowNames
import Flowline.CommandLine.Program
import Flowline.CommandLine.Transcript
import Flowline.Duration
import Flowline.Failure
import Flowline.FileAccess
import Flowline.Flow.Capture
import Flowline.Flow.Definition
import Flowline.Flow.Document
import Flowline.Flow.File
import Flowline.Flow.Message
import Flowline.Flow.Model
import Flowline.Flow.Source
import Flowline.Flow.State
import Flowline.Flow.Step
import Flowline.Http
import Flowline.Interpreter
import Flowline.Json.Reader
import Flowline.Json.Writer
import Flowline.Log.Configuration
import Flowline.Log.Entry
import Flowline.Log.Line
import Flowline.Log.Record
import Flowline.Log.Template
import Flowline.Log.Threshold
import Flowline.Log.Timestamp
import Flowline.Main
import Flowline.Markup.Cursor
import Flowline.Markup.Documents
import Flowline.Markup.Lexer
import Flowline.Markup.Node
import Flowline.Markup.NodeValue
import Flowline.Markup.Scalar
import Flowline.Markup.ScalarValue
import Flowline.Markup.Tag
import Flowline.Markup.Token
import Flowline.Notifier.Basic
import Flowline.Notifier.Build
import Flowline.Notifier.Inspection
import Flowline.Notifier.Telegram
import Flowline.Number.Binary64
import Flowline.Number.Decimal
import Flowline.Number.Limits
import Flowline.Number.Notation
import Flowline.Number.Power
import Flowline.Number.Quantity
import Flowline.Number.Reading
import Flowline.Number.Rounding
import Flowline.Pattern.Basic
import Flowline.Pattern.CharacterName
import Flowline.Pattern.Cursor
import Flowline.Pattern.Matcher
import Flowline.Pattern.Parser
import Flowline.Registry
import Flowline.Retry
import Flowline.Runner
import Flowline.Schedule
import Flowline.Schema.Checked
import Flowline.Schema.Issue
import Flowline.Settings.Basic
import Flowline.Settings.EnvFile
import Flowline.Settings.Sources
import Flowline.Text.Blank
import Flowline.Text.CharSet
import Flowline.Text.DecimalDigit
import Flowline.Text.Identifier
import Flowline.Text.LetterCase
import Flowline.Text.Printable
import Flowline.Text.Quoted
import Flowline.Text.Utf8
import Flowline.Text.Word
import Flowline.Trigger.Control
import Flowline.Trigger.Thread
import Flowline.Value.Basic
import Flowline.Value.Literal
import Flowline.World.Basic
import Flowline.World.Event
import Flowline.World.FilePath
import Flowline.World.FileStore
import Flowline.World.Session
import Flowline.Proofs.Action
import Flowline.Proofs.Interpreter.Dispatch
import Flowline.Proofs.Interpreter.Course
import Flowline.Proofs.Collaborators
import Flowline.Proofs.Interpreter.Records
import Flowline.Proofs.Interpreter.Failing
import Flowline.Proofs.Interpreter.Inlining
import Flowline.Proofs.Flow.Accepted
import Flowline.Proofs.Notifier.Build
import Flowline.Proofs.Runner.Course
import Flowline.Proofs.Runner.Notifiers
import Flowline.Proofs.Interpreter.Budget
import Flowline.Proofs.Runner.Budget
import Flowline.Proofs.Value.Entries
import Flowline.Proofs.Flow.RoundTrip
import Flowline.Proofs.Flow.Loading
import Flowline.Proofs.Runner.Outcome
import Flowline.Proofs.Except
import Flowline.Proofs.World
import Flowline.Proofs.Confinement
import Flowline.Proofs.Interpreter.Containment
import Flowline.Proofs.Comparison
import Flowline.Proofs.Comparison.Collaborators
import Flowline.Proofs.Trigger.Interleaving
import Flowline.Proofs.Interpreter.Comparison
import Flowline.Proofs.Runner.Comparison
import Flowline.Proofs.Runner.Independence
import Flowline.Proofs.Notifier.Telegram
import Flowline.Proofs.Notifier.Tokens
import Flowline.Proofs.Runner.Secrecy
import Flowline.Proofs.CommandLine.Loading
import Flowline.Proofs.CommandLine.Threads
import Flowline.Proofs.CommandLine.StartUp
import Flowline.Proofs.Flow.State
import Flowline.Proofs.Flow.Message
import Flowline.Proofs.Interpreter.Replay
import Flowline.Proofs.Interpreter.Unread
import Flowline.Proofs.Runner.Bounds
import Flowline.Proofs.Flow.Body
import Flowline.Proofs.Flow.Keys
import Flowline.Proofs.Flow.Strictness
import Flowline.Proofs.Flow.Alike
import Flowline.Proofs.Flow.Breaks
import Flowline.Proofs.Flow.Spellings
import Flowline.Proofs.Flow.Rendering
import Flowline.Proofs.Retry.Loop
import Flowline.Proofs.Http
import Flowline.Proofs.Retry.Attempts
import Flowline.Proofs.Interpreter.Requests
import Flowline.Proofs.Text.Utf8
import Flowline.Proofs.World.FileStore
import Flowline.Proofs.FileAccess
import Flowline.Proofs.Flow.References
import Flowline.Proofs.Notifier.Delivery
import Flowline.Proofs.Notifier.Acknowledgement
import Flowline.Proofs.Interpreter.MoreRetries
import Flowline.Proofs.Text.Scanning
import Flowline.Proofs.Number.Reading
import Flowline.Proofs.Number.Text
import Flowline.Proofs.Duration.Grammar
import Flowline.Proofs.Duration.Texts
import Flowline.Proofs.Flow.Shapes
import Flowline.Proofs.Runner.Log
import Flowline.Proofs.Interpreter.Origins
import Flowline.Proofs.Json.Grammar
import Flowline.Proofs.Json.Completeness
import Flowline.Proofs.Json.Scalars
import Flowline.Proofs.Json.RoundTrip
import Flowline.Proofs.Schema.Issues
import Flowline.Proofs.Flow.NormalForm
import Flowline.Proofs.Log.Lines
