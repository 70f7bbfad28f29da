import BatchJob.Action
import BatchJob.Assembly
import BatchJob.Attempt
import BatchJob.Binary64
import BatchJob.Binary64.Shortest
import BatchJob.Client.Exchange
import BatchJob.Client.Listing
import BatchJob.Client.Operation
import BatchJob.Client.Operation.Calls
import BatchJob.Config
import BatchJob.Decimal
import BatchJob.Dict
import BatchJob.Duration
import BatchJob.Error
import BatchJob.Error.Config
import BatchJob.Error.Input
import BatchJob.Error.Parse
import BatchJob.Error.Remote
import BatchJob.Event
import BatchJob.Event.Notice
import BatchJob.Execution.Controller
import BatchJob.Execution.Job
import BatchJob.Execution.Run
import BatchJob.Flag
import BatchJob.Host
import BatchJob.Host.Files
import BatchJob.Json.Basic
import BatchJob.Json.Printer
import BatchJob.Json.Reader
import BatchJob.Json.Record
import BatchJob.LogFilter
import BatchJob.LogFilter.Directive
import BatchJob.LogFilter.Pattern
import BatchJob.LogFilter.Pattern.Escape
import BatchJob.LogFilter.Pattern.Mode
import BatchJob.LogFilter.Pattern.Set
import BatchJob.LogFilter.Value
import BatchJob.Placement
import BatchJob.Request
import BatchJob.Script.Document
import BatchJob.Script.Line
import BatchJob.Script.Source
import BatchJob.Staging.Plan
import BatchJob.Storage.Path
import BatchJob.Storage.Specifier
import BatchJob.Storage.Transfer
import BatchJob.Text.Base64
import BatchJob.Text.Digits
import BatchJob.Text.Letters
import BatchJob.Text.Printable
import BatchJob.Text.Quoted
import BatchJob.Text.Upper
import BatchJob.Text.Words
import BatchJob.Token
import BatchJob.Trace
import BatchJob.Proofs.Execution.Course
import BatchJob.Proofs.Execution.Submissions
import BatchJob.Proofs.Execution.Cancellation
import BatchJob.Proofs.Json.Tokens
import BatchJob.Proofs.Json.Trees
import BatchJob.Proofs.Binary64
import BatchJob.Proofs.Json.Plain
import BatchJob.Proofs.Dict
import BatchJob.Proofs.Json.Record
import BatchJob.Proofs.Json.General
import BatchJob.Proofs.Action
import BatchJob.Proofs.Request
import BatchJob.Proofs.Assembly
import BatchJob.Proofs.Staging.Directories
import BatchJob.Proofs.Staging.Plan
import BatchJob.Proofs.Assembly.Directories
import BatchJob.Proofs.Assembly.Placement
import BatchJob.Proofs.Assembly.Listing
import BatchJob.Proofs.Placement.Repeats
import BatchJob.Proofs.Execution.Events
import BatchJob.Proofs.Execution.Refusals
import BatchJob.Proofs.Assembly.Steps
import BatchJob.Proofs.Execution.Job
import BatchJob.Proofs.Text.Lines
import BatchJob.Proofs.Script.Lines
import BatchJob.Proofs.Storage.Climb
import BatchJob.Proofs.Token
import BatchJob.Proofs.Staging.Containment
import BatchJob.Proofs.Assembly.Ready
import BatchJob.Proofs.Assembly.Order
import BatchJob.Proofs.Script.Breaks
import BatchJob.Proofs.Text.Characters
import BatchJob.Proofs.Text.Words
import BatchJob.Proofs.Script.Ports
import BatchJob.Proofs.Script.Line
import BatchJob.Proofs.Assembly.Machine
import BatchJob.Proofs.Execution.Errors
import BatchJob.Proofs.Storage.Contents
import BatchJob.Proofs.Staging.Copies
import BatchJob.Proofs.Storage.Specifier
import BatchJob.Proofs.Storage.Objects
import BatchJob.Proofs.Staging.Environment
import BatchJob.Proofs.Text.Shell
import BatchJob.Proofs.Staging.Uploads
import BatchJob.Proofs.Staging.Mounts
import BatchJob.Proofs.Staging.Faults
import BatchJob.Proofs.Assembly.Environment
import BatchJob.Proofs.Execution.Conduct
import BatchJob.Proofs.Execution.Registrations
import BatchJob.Proofs.Staging.Reordering
import BatchJob.Proofs.Assembly.Reordering
import BatchJob.Proofs.Script.Command
import BatchJob.Proofs.Json.Readers
import BatchJob.Proofs.Script.Request
import BatchJob.Proofs.Binary64.Whole
import BatchJob.Proofs.Duration.Seconds
import BatchJob.Proofs.Json.Members
import BatchJob.Proofs.Config
import BatchJob.Proofs.Script.Flags
import BatchJob.Proofs.Assembly.Flags
import BatchJob.Proofs.Assembly.Unset
import BatchJob.Proofs.Staging.Overlaps
import BatchJob.Proofs.Client.Exchange
import BatchJob.Proofs.Client.Listing
import BatchJob.Proofs.Client.Operation
import BatchJob.Proofs.Attempt
import BatchJob.Proofs.Storage.Joining
import BatchJob.Proofs.Text.Digits
import BatchJob.Proofs.Duration.Spelling
import BatchJob.Proofs.Text.Pattern
import BatchJob.Proofs.Duration.Patterns
import BatchJob.Proofs.LogFilter
