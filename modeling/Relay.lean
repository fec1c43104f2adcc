import Relay.Address
import Relay.Broker
import Relay.Clock
import Relay.Database.Codec
import Relay.Database.Dialogue
import Relay.Database.Location
import Relay.Database.Meaning
import Relay.Database.Reply
import Relay.Database.Statement
import Relay.Database.Store
import Relay.Decimal.Floating
import Relay.Decimal.Layout
import Relay.Decimal.Natural
import Relay.Decimal.Shortest
import Relay.Enqueue
import Relay.Envelope
import Relay.Event.Catalog
import Relay.Event.Registry
import Relay.Event.Schema
import Relay.Event.Shelves
import Relay.Journal.Directive
import Relay.Journal.Entry
import Relay.Journal.Filter
import Relay.Journal.Format
import Relay.Json.Fault
import Relay.Json.Kind
import Relay.Json.Reader
import Relay.Json.Scan
import Relay.Json.Writer
import Relay.Main
import Relay.Metrics
import Relay.Proofs.Database.Codec
import Relay.Proofs.Database.Declared
import Relay.Proofs.Database.Dialogue
import Relay.Proofs.Database.Meaning
import Relay.Proofs.Database.Refinement
import Relay.Proofs.Event.Catalog
import Relay.Proofs.Event.Registry
import Relay.Proofs.Event.Shelves
import Relay.Proofs.Except
import Relay.Proofs.Fleet.Accounts
import Relay.Proofs.Fleet.Attempts
import Relay.Proofs.Fleet.Basic
import Relay.Proofs.Fleet.Delivery
import Relay.Proofs.Fleet.Dispatch
import Relay.Proofs.Fleet.Drain
import Relay.Proofs.Fleet.Hand
import Relay.Proofs.Fleet.Lease
import Relay.Proofs.Fleet.Once
import Relay.Proofs.Fleet.Operations
import Relay.Proofs.Fleet.Outcome
import Relay.Proofs.Fleet.Overflow
import Relay.Proofs.Fleet.Post
import Relay.Proofs.Fleet.Report
import Relay.Proofs.Fleet.Requeue
import Relay.Proofs.Fleet.Retry
import Relay.Proofs.Iteration.Basic
import Relay.Proofs.Iteration.Batch
import Relay.Proofs.Iteration.Company
import Relay.Proofs.Iteration.Drain
import Relay.Proofs.Iteration.Faults
import Relay.Proofs.Iteration.Rejection
import Relay.Proofs.Iteration.Row
import Relay.Proofs.Iteration.Specification
import Relay.Proofs.Iteration.Stop
import Relay.Proofs.Json.RoundTrip
import Relay.Proofs.Json.Text
import Relay.Proofs.Keys
import Relay.Proofs.Retry.Delay
import Relay.Proofs.Service.Start
import Relay.Proofs.Simulation.Units
import Relay.Proofs.Stream.Entry
import Relay.Proofs.Stream.Verdict
import Relay.Proofs.Table.Attempts
import Relay.Proofs.Table.Columns
import Relay.Proofs.Table.Due
import Relay.Proofs.Table.Effect
import Relay.Proofs.Table.Granted
import Relay.Proofs.Table.Lease
import Relay.Proofs.Table.Outcome
import Relay.Proofs.Table.Rows
import Relay.Proofs.Table.Terminal
import Relay.Proofs.Text.Hex
import Relay.Proofs.Time.Calendar
import Relay.Proofs.Time.Instant
import Relay.Proofs.Time.Text
import Relay.Proofs.Trace
import Relay.Proofs.Tuning
import Relay.Proofs.Worker.Account
import Relay.Proofs.Worker.Message
import Relay.Proofs.Worker.Progress
import Relay.Retry
import Relay.Row.Basic
import Relay.Row.Format
import Relay.Service.Failure
import Relay.Service.Start
import Relay.Settings
import Relay.Simulation.Alias
import Relay.Simulation.Checks
import Relay.Simulation.Run
import Relay.Simulation.Servers
import Relay.Simulation.Serving
import Relay.Simulation.Sockets
import Relay.Simulation.Transcript
import Relay.Simulation.Trial
import Relay.Simulation.World
import Relay.Stream.Connection
import Relay.Stream.Fault
import Relay.Stream.Location
import Relay.Stream.Publisher
import Relay.Stream.Reply
import Relay.Table.Call
import Relay.Table.Memory
import Relay.Text.Alphanumeric
import Relay.Text.Blank
import Relay.Text.Hex
import Relay.Text.Invisible
import Relay.Text.Mark
import Relay.Text.Parts
import Relay.Text.Pattern
import Relay.Text.Place
import Relay.Text.Punycode
import Relay.Text.Quoted
import Relay.Text.Utf8
import Relay.Time.Calendar
import Relay.Time.Duration
import Relay.Time.Instant
import Relay.Time.Stored
import Relay.Time.Text
import Relay.Trace
import Relay.Tuning
import Relay.Url
import Relay.Url.Escape
import Relay.Url.Host
import Relay.Url.Path
import Relay.Url.WebName
import Relay.Uuid
import Relay.Uuid.Fresh
import Relay.Worker.Basic
import Relay.Worker.Loop
import Relay.Worker.Publish
