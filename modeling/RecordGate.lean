import RecordGate.Binary64.Basic
import RecordGate.Binary64.Shortest
import RecordGate.Channel.Builtin
import RecordGate.Channel.Counters
import RecordGate.Channel.DomainName
import RecordGate.Channel.DomainName.Table
import RecordGate.Channel.IpAddress
import RecordGate.Channel.Mail
import RecordGate.Channel.Mailbox
import RecordGate.Channel.Request
import RecordGate.Context
import RecordGate.Document.Basic
import RecordGate.Document.Numeral
import RecordGate.Document.Reader
import RecordGate.Document.Record
import RecordGate.Engine.Basic
import RecordGate.Engine.Dispatch
import RecordGate.Engine.Installing
import RecordGate.Event
import RecordGate.Expression.Basic
import RecordGate.Expression.Eval
import RecordGate.Expression.Evaluator
import RecordGate.Expression.Lexer
import RecordGate.Expression.Parser
import RecordGate.Expression.Token
import RecordGate.Expression.Verdict
import RecordGate.Instant.Basic
import RecordGate.Instant.Calendar
import RecordGate.Instant.Reader
import RecordGate.Manifest.Basic
import RecordGate.Manifest.Check
import RecordGate.Path
import RecordGate.Permission.Context
import RecordGate.Permission.Gate
import RecordGate.Permission.Rules
import RecordGate.Principal
import RecordGate.Settings
import RecordGate.Table
import RecordGate.Template.Check
import RecordGate.Template.Placeholder
import RecordGate.Text.Alphanumeric
import RecordGate.Text.Alphanumeric.Table
import RecordGate.Text.Blank
import RecordGate.Text.Casing.Lower
import RecordGate.Text.Casing.Table
import RecordGate.Text.CodePoints
import RecordGate.Text.Composition
import RecordGate.Text.Composition.Table
import RecordGate.Text.Direction
import RecordGate.Text.Direction.Table
import RecordGate.Text.Joining
import RecordGate.Text.Joining.Table
import RecordGate.Text.Punycode
import RecordGate.Value.Basic
import RecordGate.Value.Printer
import RecordGate.Workflow.Action
import RecordGate.Workflow.Check
import RecordGate.Workflow.Definition
import RecordGate.Workflow.Run
import RecordGate.Proofs.Channel.Effects
import RecordGate.Proofs.Engine.Contacts
import RecordGate.Proofs.Engine.Decision
import RecordGate.Proofs.Engine.Detachment
import RecordGate.Proofs.Engine.Grants
import RecordGate.Proofs.Engine.Installation
import RecordGate.Proofs.Engine.Interleaving
import RecordGate.Proofs.Engine.Isolation
import RecordGate.Proofs.Engine.Listeners
import RecordGate.Proofs.Engine.Loaded
import RecordGate.Proofs.Engine.Numbering
import RecordGate.Proofs.Engine.Shares
import RecordGate.Proofs.Engine.Trace
import RecordGate.Proofs.Engine.Tally
import RecordGate.Proofs.Engine.Versions
import RecordGate.Proofs.Engine.Visits
import RecordGate.Proofs.Event.Identity
import RecordGate.Proofs.Event.Views
import RecordGate.Proofs.Expression.Capacity
import RecordGate.Proofs.Expression.Comparison
import RecordGate.Proofs.Expression.Composition
import RecordGate.Proofs.Expression.Cutting
import RecordGate.Proofs.Expression.Errors
import RecordGate.Proofs.Expression.Grammar
import RecordGate.Proofs.Expression.Lexeme
import RecordGate.Proofs.Expression.Limits
import RecordGate.Proofs.Expression.Memory
import RecordGate.Proofs.Expression.Mentions
import RecordGate.Proofs.Expression.Paths
import RecordGate.Proofs.Expression.Places
import RecordGate.Proofs.Expression.Quoting
import RecordGate.Proofs.Expression.Reading
import RecordGate.Proofs.Expression.SinglePath
import RecordGate.Proofs.Expression.Writing
import RecordGate.Proofs.Manifest.Places
import RecordGate.Proofs.Manifest.Problems
import RecordGate.Proofs.Manifest.WellFormed
import RecordGate.Proofs.Path.Characters
import RecordGate.Proofs.Path.Parts
import RecordGate.Proofs.Path.Writing
import RecordGate.Proofs.Permission.Absence
import RecordGate.Proofs.Permission.Answers
import RecordGate.Proofs.Permission.Batch
import RecordGate.Proofs.Permission.Ownership
import RecordGate.Proofs.Permission.Questions
import RecordGate.Proofs.Permission.Relationships
import RecordGate.Proofs.Permission.Reports
import RecordGate.Proofs.Permission.Shortcuts
import RecordGate.Proofs.Template.Agreement
import RecordGate.Proofs.Template.Braces
import RecordGate.Proofs.Template.Bytes
import RecordGate.Proofs.Template.Leaves
import RecordGate.Proofs.Template.Leftmost
import RecordGate.Proofs.Template.Pieces
import RecordGate.Proofs.Template.Positions
import RecordGate.Proofs.Template.Refilling
import RecordGate.Proofs.Template.Scan
import RecordGate.Proofs.Template.Texts
import RecordGate.Proofs.Text.ByteOrder
import RecordGate.Proofs.Text.Digits
import RecordGate.Proofs.Workflow.Calls
import RecordGate.Proofs.Workflow.Checked
import RecordGate.Proofs.Workflow.Index
import RecordGate.Proofs.Binary64.Order
import RecordGate.Proofs.Binary64.Rounding
import RecordGate.Proofs.Expression.Dependence
import RecordGate.Proofs.Document.Values
import RecordGate.Proofs.Expression.Integers
import RecordGate.Proofs.Document.Records
import RecordGate.Proofs.Document.RoundTrip
import RecordGate.Proofs.Instant.Calendar
import RecordGate.Proofs.Instant.Stamp
