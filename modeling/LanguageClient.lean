import LanguageClient.Client.Basic
import LanguageClient.Client.Lock
import LanguageClient.Client.Pipe
import LanguageClient.ClientError
import LanguageClient.Decimal.Binary64
import LanguageClient.Diagnostic
import LanguageClient.DocumentNotice
import LanguageClient.Domain.Address
import LanguageClient.Domain.Basic
import LanguageClient.Domain.Composition
import LanguageClient.Domain.Direction
import LanguageClient.Domain.Joining
import LanguageClient.Domain.Mark
import LanguageClient.Domain.PlainText
import LanguageClient.Domain.Punycode
import LanguageClient.Domain.Refused
import LanguageClient.Domain.Replaced
import LanguageClient.Executable
import LanguageClient.ExitStatus
import LanguageClient.FileTree
import LanguageClient.FileUri.Basic
import LanguageClient.FileUri.Percent
import LanguageClient.FileUri.Scheme
import LanguageClient.FileUri.Trail
import LanguageClient.Frame.Error
import LanguageClient.Frame.Reader
import LanguageClient.Frame.Writer
import LanguageClient.Glob.Basic
import LanguageClient.Glob.Parser
import LanguageClient.Handler.Notification
import LanguageClient.Handler.Registry
import LanguageClient.Handler.Request
import LanguageClient.Handshake
import LanguageClient.Host.Basic
import LanguageClient.Host.CommandLine
import LanguageClient.Host.Configuration
import LanguageClient.Host.ParentWatch
import LanguageClient.IgnoreFile
import LanguageClient.Json.Basic
import LanguageClient.Json.Decode
import LanguageClient.Json.Parser
import LanguageClient.Json.Printer
import LanguageClient.Json.SyntaxError
import LanguageClient.LanguageId
import LanguageClient.Lifecycle
import LanguageClient.Main
import LanguageClient.Message.Basic
import LanguageClient.Message.ResponseError
import LanguageClient.Operation.Answering
import LanguageClient.Operation.Basic
import LanguageClient.Operation.Calling
import LanguageClient.Operation.Closing
import LanguageClient.Operation.Documents
import LanguageClient.Operation.Initializing
import LanguageClient.Operation.Sending
import LanguageClient.Operation.Step
import LanguageClient.Path
import LanguageClient.PendingCalls
import LanguageClient.Position
import LanguageClient.Proofs.Calls.Correlation
import LanguageClient.Proofs.Documents.Synchronization
import LanguageClient.Proofs.Frame.Resynchronization
import LanguageClient.Proofs.Wire.Framing
import LanguageClient.Server.Launch
import LanguageClient.Server.Outlook
import LanguageClient.Server.Sample
import LanguageClient.Server.Shell.Arithmetic
import LanguageClient.Server.Shell.Builtin
import LanguageClient.Server.Shell.Command
import LanguageClient.Server.Shell.Condition
import LanguageClient.Server.Shell.Environment
import LanguageClient.Server.Shell.Evaluation
import LanguageClient.Server.Shell.Expansion
import LanguageClient.Server.Shell.Format
import LanguageClient.Server.Shell.Glyph
import LanguageClient.Server.Shell.Machine
import LanguageClient.Server.Shell.Word
import LanguageClient.Server.Shell.Task
import LanguageClient.Server.Shell.Token
import LanguageClient.ServerFamily
import LanguageClient.Session.Basic
import LanguageClient.Session.Dialogue
import LanguageClient.Session.Schedule
import LanguageClient.Session.Script
import LanguageClient.Settings
import LanguageClient.SourceFiles
import LanguageClient.Text.Basic
import LanguageClient.Text.Printable
import LanguageClient.Text.Quoted
import LanguageClient.Text.Utf8
import LanguageClient.TextEdit
import LanguageClient.WorkspaceEdit
import LanguageClient.Proofs.Frame.Written
import LanguageClient.Proofs.Frame.Truncation
import LanguageClient.Proofs.Lifecycle.Change
import LanguageClient.Proofs.Lifecycle.Course
import LanguageClient.Proofs.Wire.Turns
import LanguageClient.Proofs.Wire.Delivery
import LanguageClient.Proofs.Edits.Serialization
import LanguageClient.Proofs.Calls.Refusal
import LanguageClient.Proofs.Session.Rest
import LanguageClient.Proofs.Calls.Ending
import LanguageClient.Proofs.Calls.History
import LanguageClient.Proofs.Dispatch.Order
import LanguageClient.Proofs.Replies.Correspondence
import LanguageClient.Proofs.Handshake.Completion
import LanguageClient.Proofs.Session.Clock
import LanguageClient.Proofs.Closing.Deadline
import LanguageClient.Proofs.Closing.Time
import LanguageClient.Proofs.Lifecycle.Gate
import LanguageClient.Proofs.Closing.Output
import LanguageClient.Proofs.Closing.Shut
import LanguageClient.Proofs.Closing.Silence
import LanguageClient.Proofs.Operation.Lifecycle
import LanguageClient.Proofs.Lifecycle.Order
import LanguageClient.Proofs.Closing.Sequence
import LanguageClient.Proofs.Session.Settling
import LanguageClient.Proofs.Dispatch.Precedence
import LanguageClient.Proofs.Lifecycle.Transient
import LanguageClient.Proofs.Message.RoundTrip
import LanguageClient.Proofs.Closing.Files
import LanguageClient.Proofs.TextEdit.Order
import LanguageClient.Proofs.Edits.Outcome
import LanguageClient.Proofs.Json.Record
import LanguageClient.Proofs.Diagnostics.Form
import LanguageClient.Proofs.Diagnostics.RoundTrip
import LanguageClient.Proofs.Diagnostics.Latest
import LanguageClient.Proofs.Settings.Lookup
import LanguageClient.Proofs.Edits.Equivalence
import LanguageClient.Proofs.Documents.Identity
import LanguageClient.Proofs.Diagnostics.ByPath
import LanguageClient.Proofs.Documents.Clearing
import LanguageClient.Proofs.SourceFiles.Preloading
import LanguageClient.Proofs.TextEdit.Resolution
