import Tickwork.Arrangement
import Tickwork.Arrangement.Entries
import Tickwork.Arrangement.Merge
import Tickwork.Arrangement.Run
import Tickwork.Arrangement.Search
import Tickwork.Bench
import Tickwork.Bundled.MagicEight
import Tickwork.Bundled.ReviewDraft
import Tickwork.Catalog.Attributes
import Tickwork.Catalog.Basic
import Tickwork.Catalog.Bundled
import Tickwork.Catalog.Read
import Tickwork.Command.Basic
import Tickwork.Command.Options
import Tickwork.Command.Run
import Tickwork.Definition.Basic
import Tickwork.Definition.Compile
import Tickwork.Engine.Advance
import Tickwork.Engine.Callable
import Tickwork.Engine.Host
import Tickwork.Engine.Memory
import Tickwork.Engine.Outcome
import Tickwork.Engine.Visit
import Tickwork.Fault
import Tickwork.Graph.Basic
import Tickwork.Graph.Violations
import Tickwork.Instant.Basic
import Tickwork.Instant.Read
import Tickwork.Ledger.Progress
import Tickwork.Ledger.Replay
import Tickwork.Ledger.Transition
import Tickwork.Main
import Tickwork.Number.Binary64
import Tickwork.Number.Numeral
import Tickwork.Number.Power
import Tickwork.Number.Quantity
import Tickwork.Number.Shortest
import Tickwork.Pipe
import Tickwork.Proofs.Action
import Tickwork.Proofs.Keeping
import Tickwork.Proofs.Turn
import Tickwork.Proofs.Visits
import Tickwork.Script.Eval
import Tickwork.Script.Expr
import Tickwork.Script.Routine
import Tickwork.Script.Source
import Tickwork.Settings
import Tickwork.Shop.Basic
import Tickwork.Shop.Read
import Tickwork.Shop.Request
import Tickwork.Shop.Runner
import Tickwork.Shop.Serve
import Tickwork.Tables.Basic
import Tickwork.Tables.Row
import Tickwork.Text.Blank
import Tickwork.Text.Digit
import Tickwork.Text.Likeness
import Tickwork.Text.Line
import Tickwork.Text.Path
import Tickwork.Text.Printable
import Tickwork.Text.Quoted
import Tickwork.Value.Access
import Tickwork.Value.Basic
import Tickwork.Value.Fields
import Tickwork.Value.Key
import Tickwork.Value.Number
import Tickwork.Value.Read
import Tickwork.Value.Shown
import Tickwork.Value.Written
import Tickwork.Proofs.Running
import Tickwork.Proofs.Leases
import Tickwork.Proofs.Calls
import Tickwork.Proofs.Returns
import Tickwork.Proofs.LeasedWrites
import Tickwork.Proofs.LeasedTicks
import Tickwork.Proofs.Replays
import Tickwork.Proofs.Sessions
import Tickwork.Proofs.Overlays
import Tickwork.Proofs.Determinism
import Tickwork.Proofs.CutRuns
import Tickwork.Proofs.Passes
import Tickwork.Proofs.Projections
import Tickwork.Proofs.Noting
import Tickwork.Proofs.Replies.Deliveries
import Tickwork.Proofs.Replies.Discreet
import Tickwork.Proofs.Replies.Beside
import Tickwork.Proofs.Replies.Abreast
import Tickwork.Proofs.Replies.Ways
import Tickwork.Proofs.Replies.Questions
import Tickwork.Proofs.Replies.Laid
import Tickwork.Proofs.Replies.Readings
import Tickwork.Proofs.Pipe.Meaning
import Tickwork.Proofs.Pipe.Layout
import Tickwork.Proofs.Pipe.Serials
import Tickwork.Proofs.Pipe.Compiled
import Tickwork.Proofs.Pipe.Courses
import Tickwork.Proofs.Pipe.Nodes
import Tickwork.Proofs.Pipe.Decisions
import Tickwork.Proofs.Pipe.Loops
import Tickwork.Proofs.Pipe.Questions
import Tickwork.Proofs.Pipe.Preserved
import Tickwork.Proofs.Pipe.Followed
import Tickwork.Proofs.Pipe.Ticks
import Tickwork.Proofs.Pipe.Sizes
import Tickwork.Proofs.Documents
import Tickwork.Proofs.Requests
import Tickwork.Proofs.Replies.Scenes
import Tickwork.Proofs.Replies.Stored
import Tickwork.Proofs.Replies.Histories
import Tickwork.Proofs.Replies.Accepted
import Tickwork.Proofs.Failures.Causes
import Tickwork.Proofs.Failures.Verdicts
import Tickwork.Proofs.Failures.Blame
import Tickwork.Proofs.Failures.Lives
import Tickwork.Proofs.Failures.Positions
import Tickwork.Proofs.Failures.References
import Tickwork.Proofs.Failures.Escapes
import Tickwork.Proofs.Failures.Writes
import Tickwork.Proofs.WellFormed
import Tickwork.Proofs.Edges
import Tickwork.Proofs.Replies.Answered
import Tickwork.Proofs.Invariants
import Tickwork.Proofs.AppendOnly
import Tickwork.Proofs.Openings
import Tickwork.Proofs.Company
import Tickwork.Proofs.Conflicts
import Tickwork.Proofs.Validity
import Tickwork.Proofs.Compilation
import Tickwork.Proofs.Likeness
import Tickwork.Proofs.InStep
import Tickwork.Proofs.Lockstep
import Tickwork.Proofs.Owned
import Tickwork.Proofs.Steps
import Tickwork.Proofs.Served
import Tickwork.Proofs.Isolation
import Tickwork.Proofs.Twins
import Tickwork.Proofs.TwinTicks
import Tickwork.Proofs.Standing
import Tickwork.Proofs.Commuting
import Tickwork.Proofs.Data
import Tickwork.Proofs.Kept
import Tickwork.Proofs.InMemory
import Tickwork.Proofs.Imprints
import Tickwork.Proofs.Refinement
import Tickwork.Proofs.Jobs
import Tickwork.Proofs.Careers
import Tickwork.Proofs.Blocks
import Tickwork.Proofs.Rounds
import Tickwork.Proofs.Retries.Doubles
import Tickwork.Proofs.Retries.Delays
import Tickwork.Proofs.Retries.Tries
import Tickwork.Proofs.Retries.Schedules
import Tickwork.Proofs.Budgets
import Tickwork.Proofs.Reports
import Tickwork.Proofs.Departures
import Tickwork.Proofs.Routing
import Tickwork.Proofs.Pipe.Accepted
import Tickwork.Proofs.Pipe.Branches
import Tickwork.Proofs.Provenance
import Tickwork.Proofs.CalmWork
import Tickwork.Proofs.Recording
import Tickwork.Proofs.Polls
import Tickwork.Proofs.Gathered
import Tickwork.Proofs.Carried
import Tickwork.Proofs.Closings
import Tickwork.Proofs.Tellings
import Tickwork.Proofs.RunTable
import Tickwork.Proofs.Checks
import Tickwork.Proofs.Json
import Tickwork.Proofs.Replies.Offers
import Tickwork.Proofs.RoundTrips
import Tickwork.Proofs.Alone
import Tickwork.Proofs.Turns
import Tickwork.Proofs.Drained
import Tickwork.Proofs.Talks.Stretches
import Tickwork.Proofs.Talks.Dialogues
import Tickwork.Proofs.Talks.Exits
import Tickwork.Proofs.Talks.Recitals
import Tickwork.Proofs.Talks.ReviewDraft
import Tickwork.Proofs.Talks.Reviews
import Tickwork.Proofs.Talks.MagicEight
import Tickwork.Proofs.Talks.Histories
