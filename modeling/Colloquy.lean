import Colloquy.Completion.Basic
import Colloquy.Completion.Chat
import Colloquy.Completion.Log
import Colloquy.Completion.Provider
import Colloquy.Completion.Scripted
import Colloquy.Completion.Stream
import Colloquy.Config.Basic
import Colloquy.Config.File
import Colloquy.Config.Provider
import Colloquy.Config.Store
import Colloquy.Console.Assistant
import Colloquy.Console.Command
import Colloquy.Console.Input
import Colloquy.Console.Isolated
import Colloquy.Console.LogFile
import Colloquy.Console.Options
import Colloquy.Console.Program
import Colloquy.Console.Report
import Colloquy.Console.Session
import Colloquy.Console.Tooling
import Colloquy.Conversation.Codec
import Colloquy.Conversation.History
import Colloquy.Conversation.Ids
import Colloquy.Conversation.Message
import Colloquy.Conversation.Summary
import Colloquy.Decimal.Binary
import Colloquy.Decimal.Fixed
import Colloquy.Decimal.Layout
import Colloquy.Decimal.Numeral
import Colloquy.Decimal.Reader
import Colloquy.Decimal.Scaled
import Colloquy.Decimal.Shortest
import Colloquy.Decode.Basic
import Colloquy.Error
import Colloquy.Http.Fetch
import Colloquy.Http.Host
import Colloquy.Http.Url
import Colloquy.Json.Basic
import Colloquy.Json.Numeral
import Colloquy.Json.Printer
import Colloquy.Json.Reader
import Colloquy.Main
import Colloquy.Proofs.Completion.Budget
import Colloquy.Proofs.Completion.Chat
import Colloquy.Proofs.Completion.Echo
import Colloquy.Proofs.Completion.Playback
import Colloquy.Proofs.Completion.Stream
import Colloquy.Proofs.Config.Key
import Colloquy.Proofs.Config.Saving
import Colloquy.Proofs.Conversation.CallIndex
import Colloquy.Proofs.Conversation.Codec
import Colloquy.Proofs.Conversation.Growth
import Colloquy.Proofs.Conversation.Pairing
import Colloquy.Proofs.Conversation.Renewal
import Colloquy.Proofs.Conversation.Repair
import Colloquy.Proofs.Conversation.Selection
import Colloquy.Proofs.Conversation.Snapshot
import Colloquy.Proofs.Decimal.Fixed
import Colloquy.Proofs.Decimal.Magnitude
import Colloquy.Proofs.Decimal.Parts
import Colloquy.Proofs.Decimal.Sign
import Colloquy.Proofs.Decode.Record
import Colloquy.Proofs.Http.Base
import Colloquy.Proofs.Http.Percent
import Colloquy.Proofs.Http.Segment
import Colloquy.Proofs.Json.Compact
import Colloquy.Proofs.Json.Members
import Colloquy.Proofs.Json.Pretty
import Colloquy.Proofs.Json.Reader
import Colloquy.Proofs.Json.Scalar
import Colloquy.Proofs.Rehearsal.Bench
import Colloquy.Proofs.Rehearsal.Interchange
import Colloquy.Proofs.Rpc.Codec
import Colloquy.Proofs.Rpc.Kinds
import Colloquy.Proofs.Server.Answers
import Colloquy.Proofs.Server.Serving
import Colloquy.Proofs.Session.Alone
import Colloquy.Proofs.Session.Announced
import Colloquy.Proofs.Session.Cleanup
import Colloquy.Proofs.Session.Connecting
import Colloquy.Proofs.Session.Discovery
import Colloquy.Proofs.Session.Exchange
import Colloquy.Proofs.Session.Framing
import Colloquy.Proofs.Session.Handover
import Colloquy.Proofs.Session.Lifecycle
import Colloquy.Proofs.Session.Line
import Colloquy.Proofs.Session.Log
import Colloquy.Proofs.Session.Matching
import Colloquy.Proofs.Session.Moves
import Colloquy.Proofs.Session.Outcome
import Colloquy.Proofs.Session.Paging
import Colloquy.Proofs.Session.Place
import Colloquy.Proofs.Session.Service
import Colloquy.Proofs.Session.Stream
import Colloquy.Proofs.Session.Traffic
import Colloquy.Proofs.Text.Lines
import Colloquy.Proofs.Toml.Document
import Colloquy.Proofs.Toml.Quoting
import Colloquy.Proofs.Toml.Values
import Colloquy.Proofs.Tool.Amount
import Colloquy.Proofs.Tool.Containment
import Colloquy.Proofs.Tool.Parameters
import Colloquy.Proofs.Tool.Prices
import Colloquy.Proofs.Tool.Registration
import Colloquy.Proofs.Tool.Registry
import Colloquy.Proofs.Turn.Batch
import Colloquy.Proofs.Turn.Calls
import Colloquy.Proofs.Turn.Cancellation
import Colloquy.Proofs.Turn.Course
import Colloquy.Proofs.Turn.Issue
import Colloquy.Proofs.Turn.Parallel
import Colloquy.Proofs.Turn.Progress
import Colloquy.Proofs.Turn.Reach
import Colloquy.Proofs.Turn.RoundLimit
import Colloquy.Proofs.Turn.Trace
import Colloquy.Proofs.Turn.Transcript
import Colloquy.Rehearsal.Bench
import Colloquy.Rehearsal.Canned
import Colloquy.Rehearsal.Commands
import Colloquy.Rehearsal.Disk
import Colloquy.Rehearsal.Peers
import Colloquy.Rehearsal.Play
import Colloquy.Rehearsal.Routes
import Colloquy.Rehearsal.Script
import Colloquy.Rehearsal.Services
import Colloquy.Rpc.Frame
import Colloquy.Rpc.Incoming
import Colloquy.Rpc.Records
import Colloquy.Server.Basic
import Colloquy.Server.Serve
import Colloquy.Server.ToolHandler
import Colloquy.Server.Weather
import Colloquy.Session.Client
import Colloquy.Session.Connect
import Colloquy.Session.Error
import Colloquy.Session.Stdio
import Colloquy.Session.Toolbox
import Colloquy.Text.Blank
import Colloquy.Text.Case
import Colloquy.Text.Cased
import Colloquy.Text.Cluster
import Colloquy.Text.ClusterClass
import Colloquy.Text.Duration
import Colloquy.Text.Escaped
import Colloquy.Text.Extending
import Colloquy.Text.LetterShifts
import Colloquy.Text.Lines
import Colloquy.Text.Quoted
import Colloquy.Text.Ranges
import Colloquy.Text.Unseen
import Colloquy.Text.Utf8
import Colloquy.Toml.Basic
import Colloquy.Toml.Moment
import Colloquy.Toml.Printer
import Colloquy.Toml.Quoted
import Colloquy.Toml.Reader
import Colloquy.Toml.Scalar
import Colloquy.Tool.Builtin
import Colloquy.Tool.Error
import Colloquy.Tool.Local
import Colloquy.Tool.Price
import Colloquy.Tool.Registry
import Colloquy.Tool.Schema
import Colloquy.Tool.Weather
import Colloquy.Turn.Basic
import Colloquy.Turn.Dialogue
import Colloquy.Turn.Phase
