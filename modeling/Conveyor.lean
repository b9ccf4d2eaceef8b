import Conveyor.Cache.File
import Conveyor.Cache.Memory
import Conveyor.Config.Document
import Conveyor.LogFilter
import Conveyor.Message.Document
import Conveyor.Plant.Operations
import Conveyor.Proofs.Bench.Looks
import Conveyor.Proofs.Bench.Refinement
import Conveyor.Proofs.Cache.Agreement
import Conveyor.Proofs.Cache.Keys
import Conveyor.Proofs.Cache.Memory
import Conveyor.Proofs.Calm
import Conveyor.Proofs.Config
import Conveyor.Proofs.Consumers
import Conveyor.Proofs.DepthFirst
import Conveyor.Proofs.Exchange.Account
import Conveyor.Proofs.Gates
import Conveyor.Proofs.Interleaving
import Conveyor.Proofs.Json.Grammar
import Conveyor.Proofs.Message
import Conveyor.Proofs.Metrics
import Conveyor.Proofs.Metrics.Calls
import Conveyor.Proofs.Metrics.Keys
import Conveyor.Proofs.Metrics.Timings
import Conveyor.Proofs.Outlet.Answers
import Conveyor.Proofs.Pool.Lanes
import Conveyor.Proofs.Pool.Making
import Conveyor.Proofs.Pool.Renumbering
import Conveyor.Proofs.Pool.Rolls
import Conveyor.Proofs.Pool.Rotation
import Conveyor.Proofs.Pool.Size
import Conveyor.Proofs.Pool.Turns
import Conveyor.Proofs.Pool.Winding
import Conveyor.Proofs.Processor.Results
import Conveyor.Proofs.Processor.Turnover
import Conveyor.Proofs.Relay
import Conveyor.Proofs.Shared
import Conveyor.Proofs.Shared.Lifecycle
import Conveyor.Proofs.Shared.Numbers
import Conveyor.Proofs.Shared.Refusal
import Conveyor.Proofs.Shared.Resizing
import Conveyor.Proofs.Shared.Size
import Conveyor.Proofs.Site.Accounts
import Conveyor.Proofs.Site.Answers
import Conveyor.Proofs.Site.Closing
import Conveyor.Proofs.Site.Conservation
import Conveyor.Proofs.Site.Counters
import Conveyor.Proofs.Site.Draining
import Conveyor.Proofs.Site.Independence
import Conveyor.Proofs.Site.OneLane
import Conveyor.Proofs.Site.Ownership
import Conveyor.Proofs.Site.Progress
import Conveyor.Proofs.Site.Reservations
import Conveyor.Proofs.Site.Sequences
import Conveyor.Proofs.Site.Streams
import Conveyor.Proofs.Tandem
import Conveyor.Proofs.Tandem.Progress
import Conveyor.Proofs.Tandem.Series
import Conveyor.Response.Desk
