import OrderRelay.Bus.Assignment
import OrderRelay.Bus.PartitionLog
import OrderRelay.Bus.PartitionMap
import OrderRelay.Bus.Placement
import OrderRelay.Bus.Record
import OrderRelay.Bus.State
import OrderRelay.Config
import OrderRelay.Consumer
import OrderRelay.Daemon
import OrderRelay.Http.Api
import OrderRelay.Http.Route
import OrderRelay.Http.Target
import OrderRelay.Json.Decode
import OrderRelay.Json.Fault
import OrderRelay.Json.Forms
import OrderRelay.Json.Number
import OrderRelay.Json.Reader
import OrderRelay.Json.Value
import OrderRelay.Log.Entry
import OrderRelay.Log.Filter
import OrderRelay.Log.Line
import OrderRelay.Main
import OrderRelay.Net.SocketAddress
import OrderRelay.Order.Event
import OrderRelay.Order.Reference
import OrderRelay.Processing.OrderHandler
import OrderRelay.Processing.Outcome
import OrderRelay.Processing.Processor
import OrderRelay.Recovery.Sweep
import OrderRelay.Services
import OrderRelay.Text.Blank
import OrderRelay.Text.Digits
import OrderRelay.Text.Duration
import OrderRelay.Text.Printable
import OrderRelay.Text.Quoted
import OrderRelay.Text.Shortest
import OrderRelay.Text.Utf8
import OrderRelay.Tier
import OrderRelay.Wire.Codec
import OrderRelay.Wire.Varint
import OrderRelay.Worker.Loop
import OrderRelay.Worker.Stats
import OrderRelay.Proofs.Bus.AppendOnly
import OrderRelay.Proofs.Bus.Journal
import OrderRelay.Proofs.Bus.Logs
import OrderRelay.Proofs.Bus.Outside
import OrderRelay.Proofs.Bus.Placed
import OrderRelay.Proofs.Bus.Published
import OrderRelay.Proofs.Consumer.Delivery
import OrderRelay.Proofs.Consumer.Fairness
import OrderRelay.Proofs.Consumer.Reading
import OrderRelay.Proofs.Consumer.Reassignment
import OrderRelay.Proofs.Feed.AtLeastOnce
import OrderRelay.Proofs.Feed.Copies
import OrderRelay.Proofs.Feed.Edges
import OrderRelay.Proofs.Feed.Escalation
import OrderRelay.Proofs.Feed.Floor
import OrderRelay.Proofs.Feed.Journal
import OrderRelay.Proofs.Feed.Rounds
import OrderRelay.Proofs.Order.NormalForms
import OrderRelay.Proofs.Order.Reference
import OrderRelay.Proofs.Processing.Calls
import OrderRelay.Proofs.Processing.Plan
import OrderRelay.Proofs.Processing.Relaying
import OrderRelay.Proofs.Recovery.Activations
import OrderRelay.Proofs.Recovery.Assignment
import OrderRelay.Proofs.Recovery.Course
import OrderRelay.Proofs.Recovery.Ending
import OrderRelay.Proofs.Recovery.Exactness
import OrderRelay.Proofs.Recovery.Joining
import OrderRelay.Proofs.Recovery.Loop
import OrderRelay.Proofs.Recovery.Parts
import OrderRelay.Proofs.Recovery.Pausing
import OrderRelay.Proofs.Recovery.Rounds
import OrderRelay.Proofs.Recovery.Windows
import OrderRelay.Proofs.Services.Exclusivity
import OrderRelay.Proofs.Services.Injection
import OrderRelay.Proofs.Settings.TriggerPath
import OrderRelay.Proofs.Settings.Validity
import OrderRelay.Proofs.Text.Trimming
import OrderRelay.Proofs.Text.Values
import OrderRelay.Proofs.Wire.Format
import OrderRelay.Proofs.Wire.Groups
import OrderRelay.Proofs.Wire.Overruns
import OrderRelay.Proofs.Wire.RoundTrip
import OrderRelay.Proofs.Wire.Shortest
import OrderRelay.Proofs.Wire.Words
import OrderRelay.Proofs.Worker.Counting
import OrderRelay.Proofs.Worker.Isolation
import OrderRelay.Proofs.Worker.Lifting
import OrderRelay.Proofs.Worker.Moved
import OrderRelay.Proofs.Worker.Moves
import OrderRelay.Proofs.Worker.Noting
import OrderRelay.Proofs.Worker.Order
import OrderRelay.Proofs.Worker.Progress
import OrderRelay.Proofs.Worker.Solo
import OrderRelay.Proofs.Worker.Stage
import OrderRelay.Proofs.Worker.Steps
import OrderRelay.Proofs.Worker.Succession
import OrderRelay.Proofs.Worker.Unsettled
