import NetSession.Bench
import NetSession.Calendar
import NetSession.Client.Basic
import NetSession.Client.Reaction
import NetSession.Client.Script
import NetSession.Client.System
import NetSession.Client.Trial
import NetSession.Clock
import NetSession.Closed
import NetSession.CommandLine.Commands
import NetSession.CommandLine.Grammar
import NetSession.CommandLine.Usage
import NetSession.Connection.Basic
import NetSession.Connection.Pool
import NetSession.Connection.Roster
import NetSession.Connection.Table
import NetSession.Console.Directive
import NetSession.Console.Filter
import NetSession.Console.Notice
import NetSession.Console.Pattern
import NetSession.Counting
import NetSession.Datagram.Reaction
import NetSession.Datagram.Transport
import NetSession.Duration.Basic
import NetSession.Duration.Reader
import NetSession.Endpoint.Basic
import NetSession.Endpoint.Ipv4
import NetSession.Endpoint.Ipv6
import NetSession.Live.Address
import NetSession.Live.Loop
import NetSession.Record.Decode
import NetSession.Record.Emitter
import NetSession.Record.Encode
import NetSession.Record.Fault
import NetSession.Record.Header
import NetSession.Record.Item
import NetSession.Record.Level
import NetSession.Record.Notice
import NetSession.Record.Path
import NetSession.Record.Sender
import NetSession.Record.Word
import NetSession.Record.Writer
import NetSession.Server.Basic
import NetSession.Server.Reaction
import NetSession.Server.System
import NetSession.Settings.Basic
import NetSession.Settings.Document
import NetSession.Settings.Load
import NetSession.Stream.Basic
import NetSession.Stream.Link
import NetSession.Text.Alphanumeric
import NetSession.Text.Blank
import NetSession.Text.Decimal
import NetSession.Text.Printable
import NetSession.Text.Quoted
import NetSession.Text.Ranges
import NetSession.Text.Utf8
import NetSession.Tool.Client
import NetSession.Tool.Counter
import NetSession.Tool.Fault
import NetSession.Tool.Host
import NetSession.Tool.Launch
import NetSession.Tool.LogClient
import NetSession.Tool.LogServer
import NetSession.Tool.Program
import NetSession.Tool.Server
import NetSession.Tool.Traffic
import NetSession.Yaml.Cursor
import NetSession.Yaml.Node
import NetSession.Yaml.Scalar
import NetSession.Yaml.Token
import NetSession.Main
import NetSession.Proofs.Record.Fit
import NetSession.Proofs.Record.ShortPath
import NetSession.Proofs.Record.HeaderBytes
import NetSession.Proofs.Record.Stored
import NetSession.Proofs.Record.RoundTrip
import NetSession.Proofs.Record.Truncation
import NetSession.Proofs.Record.Format
import NetSession.Proofs.Record.BaseForm
import NetSession.Proofs.Connection.Ascending
import NetSession.Proofs.Connection.Order
import NetSession.Proofs.Connection.Pool
import NetSession.Proofs.Connection.Refinement
import NetSession.Proofs.Server.Machine
import NetSession.Proofs.Server.Quiet
import NetSession.Proofs.Server.InOrder
import NetSession.Proofs.Server.Orderly
import NetSession.Proofs.Server.Steps
import NetSession.Proofs.Server.StreamSteps
import NetSession.Proofs.Server.Runs
import NetSession.Proofs.Server.Closing
import NetSession.Proofs.Server.Course
import NetSession.Proofs.Server.Heeding
import NetSession.Proofs.Connection.Outline
import NetSession.Proofs.Past
import NetSession.Proofs.Server.Discipline
import NetSession.Proofs.Connection.Recency
import NetSession.Proofs.Server.Callbacks
import NetSession.Proofs.Server.Sparing
import NetSession.Proofs.Server.Eviction
import NetSession.Proofs.Server.Fate
import NetSession.Proofs.Server.Isolation
import NetSession.Proofs.Client.Machine
import NetSession.Proofs.Client.Protocol
import NetSession.Proofs.Client.Record
import NetSession.Proofs.Client.Scenes
import NetSession.Proofs.Client.Steps
import NetSession.Proofs.Client.Others
import NetSession.Proofs.Client.Callbacks
import NetSession.Proofs.Client.Attempts
import NetSession.Proofs.Server.Listed
import NetSession.Proofs.Client.Requests
import NetSession.Proofs.Client.Shutdown
import NetSession.Proofs.Stream.Turns
import NetSession.Proofs.Stream.Account
import NetSession.Proofs.Stream.Settled
import NetSession.Proofs.Server.Turns
import NetSession.Proofs.Server.Account
import NetSession.Proofs.Server.Balance
import NetSession.Proofs.Client.Account
import NetSession.Proofs.Client.Traffic
import NetSession.Proofs.Client.Balance
import NetSession.Proofs.Delivery
import NetSession.Proofs.Server.Unwritten
import NetSession.Proofs.Record.Relay
import NetSession.Proofs.Record.Growth
import NetSession.Proofs.Record.Alteration
import NetSession.Proofs.Datagram.Handed
import NetSession.Proofs.Record.Emission
import NetSession.Proofs.Record.Identity
import NetSession.Proofs.Record.InPlace
import NetSession.Proofs.Record.Longest
import NetSession.Proofs.Sender.Calls
import NetSession.Proofs.Sender.Handover
import NetSession.Proofs.Text.Numerals
import NetSession.Proofs.Text.Trimming
import NetSession.Proofs.Endpoint.Quad
import NetSession.Proofs.Endpoint.Groups
import NetSession.Proofs.Endpoint.Grammar
import NetSession.Proofs.Endpoint.RoundTrip
import NetSession.Proofs.Connection.Scan
import NetSession.Proofs.Record.HeaderForms
import NetSession.Proofs.Record.Trailing
import NetSession.Record.Guarded
import NetSession.Proofs.Record.Unbreached
import NetSession.Proofs.Text.Utf8Forms
import NetSession.Proofs.Console.Message
import NetSession.Proofs.Datagram.Owed
import NetSession.Proofs.Datagram.Exchange
import NetSession.Proofs.Counting.Numbers
import NetSession.Proofs.Counting.Rally
