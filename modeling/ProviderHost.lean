import ProviderHost.Child
import ProviderHost.CommandLine.Command
import ProviderHost.CommandLine.Draft
import ProviderHost.CommandLine.Reply
import ProviderHost.CommandLine.Request
import ProviderHost.CommandLine.Session
import ProviderHost.Correlator
import ProviderHost.Environment
import ProviderHost.Fault
import ProviderHost.Files
import ProviderHost.Identifier
import ProviderHost.Journal
import ProviderHost.Json
import ProviderHost.Kernel
import ProviderHost.Launch
import ProviderHost.Lifecycle.Attempt
import ProviderHost.Lifecycle.Await
import ProviderHost.Lifecycle.Controller
import ProviderHost.Lifecycle.Instance
import ProviderHost.Lifecycle.Monitor
import ProviderHost.Lifecycle.Status
import ProviderHost.Lifecycle.Teardown
import ProviderHost.Lifecycle.World
import ProviderHost.LogRing
import ProviderHost.Main
import ProviderHost.ObjectSpan
import ProviderHost.PortArgument
import ProviderHost.Prompt
import ProviderHost.Proofs.Child.Record
import ProviderHost.Proofs.Correlator.Closing
import ProviderHost.Proofs.Correlator.Delivery
import ProviderHost.Proofs.Correlator.Moves
import ProviderHost.Proofs.Lifecycle.Alone
import ProviderHost.Proofs.Lifecycle.Course
import ProviderHost.Proofs.Lifecycle.Frame
import ProviderHost.Proofs.Lifecycle.Rounds
import ProviderHost.Proofs.Lifecycle.Steps
import ProviderHost.Proofs.Lifecycle.Stopping
import ProviderHost.Proofs.Lifecycle.Threads
import ProviderHost.Provider
import ProviderHost.Provider.Template
import ProviderHost.SearchPath
import ProviderHost.Settings
import ProviderHost.Shell.Argument
import ProviderHost.Shell.Arithmetic
import ProviderHost.Shell.Binary64
import ProviderHost.Shell.Builtin
import ProviderHost.Shell.Condition
import ProviderHost.Shell.Declaration
import ProviderHost.Shell.Directory
import ProviderHost.Shell.Engine
import ProviderHost.Shell.Escape
import ProviderHost.Shell.Evaluate
import ProviderHost.Shell.Execution
import ProviderHost.Shell.Expansion
import ProviderHost.Shell.Field
import ProviderHost.Shell.Format
import ProviderHost.Shell.Grammar
import ProviderHost.Shell.Job
import ProviderHost.Shell.JobCommand
import ProviderHost.Shell.Lexer
import ProviderHost.Shell.Lookup
import ProviderHost.Shell.Number
import ProviderHost.Shell.Parameter
import ProviderHost.Shell.Pattern
import ProviderHost.Shell.Reader
import ProviderHost.Shell.Redirect
import ProviderHost.Shell.Resource
import ProviderHost.Shell.Script
import ProviderHost.Shell.Setting
import ProviderHost.Shell.Start
import ProviderHost.Shell.State
import ProviderHost.Shell.Syntax
import ProviderHost.Shell.Trap
import ProviderHost.Shell.Variable
import ProviderHost.Store
import ProviderHost.Store.Roster
import ProviderHost.System
import ProviderHost.System.Call
import ProviderHost.System.Delivery
import ProviderHost.System.Limit
import ProviderHost.System.Load
import ProviderHost.System.Perform
import ProviderHost.System.Pipe
import ProviderHost.System.Process
import ProviderHost.System.Schedule
import ProviderHost.System.Signal
import ProviderHost.System.Sleep
import ProviderHost.SystemFault
import ProviderHost.Text
import ProviderHost.Text.Decimal
import ProviderHost.Text.Table
import ProviderHost.ToolAccess
import ProviderHost.ToolCall
import ProviderHost.Transport.Exchange
import ProviderHost.Transport.Lines
import ProviderHost.Transport.Reading
import ProviderHost.Transport.Stdio
import ProviderHost.Url
import ProviderHost.Proofs.Transport.Splitting
import ProviderHost.Proofs.Child.Dealing
import ProviderHost.Proofs.Child.Finality
import ProviderHost.Proofs.Lifecycle.Conduct
import ProviderHost.Proofs.Child.Collection
import ProviderHost.Proofs.Lifecycle.Launching
import ProviderHost.Proofs.Lifecycle.Failures
import ProviderHost.Proofs.Lifecycle.Requests
import ProviderHost.Proofs.Lifecycle.Starting
import ProviderHost.Proofs.Child.Embedding
import ProviderHost.Proofs.Lifecycle.Embedding
import ProviderHost.Proofs.Lifecycle.Mirror
import ProviderHost.Proofs.Lifecycle.Slots
import ProviderHost.Proofs.Child.Group
import ProviderHost.Proofs.Lifecycle.Orphans
import ProviderHost.Proofs.Store.Refusal
import ProviderHost.Proofs.Lifecycle.Protection
import ProviderHost.Proofs.Lifecycle.Filing
import ProviderHost.Proofs.Lifecycle.Separation
import ProviderHost.Proofs.Child.Partition
import ProviderHost.Proofs.Text.Tables
import ProviderHost.Proofs.CommandLine.Scanning
import ProviderHost.Proofs.CommandLine.GlobalFlags
import ProviderHost.Proofs.CommandLine.Installing
import ProviderHost.Proofs.ToolCall.JsonText
import ProviderHost.Proofs.ToolCall.ObjectSpans
import ProviderHost.Proofs.Transport.Wire
import ProviderHost.Proofs.Transport.WireSteps
import ProviderHost.Proofs.Transport.Disconnection
import ProviderHost.Proofs.Transport.Waiters
import ProviderHost.Proofs.Transport.Loss
import ProviderHost.Proofs.Transport.Serial
import ProviderHost.Proofs.Text.Cutting
import ProviderHost.Proofs.Url
import ProviderHost.Proofs.Provider.Templates
import ProviderHost.Proofs.CommandLine.Acceptance
import ProviderHost.Proofs.ToolCall.Reading
import ProviderHost.Proofs.ToolCall.Braces
import ProviderHost.Proofs.ToolCall.Unclosed
import ProviderHost.Proofs.Settings
import ProviderHost.Proofs.Port
import ProviderHost.Proofs.Lifecycle.Waiting
import ProviderHost.Proofs.Lifecycle.Observing
import ProviderHost.Proofs.LogRing
import ProviderHost.Proofs.CommandLine.Naming
import ProviderHost.Proofs.Store.Calls
import ProviderHost.Proofs.Lifecycle.Desk
import ProviderHost.Proofs.Lifecycle.Uninstalling
import ProviderHost.Proofs.SearchPath
import ProviderHost.Proofs.Environment
import ProviderHost.Proofs.Lifecycle.Resolving
import ProviderHost.Proofs.PortArgument
import ProviderHost.Proofs.Prompt
import ProviderHost.Proofs.Correlator.Callers
import ProviderHost.Proofs.Lifecycle.Returning
import ProviderHost.Proofs.Lifecycle.Connection
import ProviderHost.Proofs.Lifecycle.Probing
import ProviderHost.Proofs.Lifecycle.Reached
