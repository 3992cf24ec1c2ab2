import Sparkpipe.Lib.Chain
import Sparkpipe.Sha256
import Sparkpipe.Sha256.Streaming
import Sparkpipe.Status
import Sparkpipe.Cache.Arena.Model
import Sparkpipe.Cache.Prefix.State
import Sparkpipe.Cache.Prefix.Index
import Sparkpipe.Cache.Prefix.Ownership
import Sparkpipe.Cache.Prefix.Prompt
import Sparkpipe.Cache.Prefix.Maintenance
import Sparkpipe.Cache.Prefix.Frame
import Sparkpipe.Lib.Tally
import Sparkpipe.Cache.Prefix.Linked
import Sparkpipe.Cache.Prefix.Turnover
import Sparkpipe.Cache.Prefix.Counted
import Sparkpipe.Cache.Prefix.Steps
import Sparkpipe.Cache.Prefix.Calls
import Sparkpipe.Cache.Prefix.Records
import Sparkpipe.Cache.Prefix.Growth
import Sparkpipe.Cache.Prefix.Run
import Sparkpipe.Cache.Prefix.Buckets
import Sparkpipe.Cache.Prefix.Blocks
import Sparkpipe.Cache.Prefix.Marked
import Sparkpipe.Cache.Arena.Residency
import Sparkpipe.Cache.Prefix.Reclaim
import Sparkpipe.Cache.Prefix.Pending
import Sparkpipe.Cache.Prefix.Roomy
import Sparkpipe.Cache.Prefix.Superseded
import Sparkpipe.Cache.Prefix.Longest
import Sparkpipe.Cache.Prefix.Tables
import Sparkpipe.Cache.Prefix.Tombstones
import Sparkpipe.Cache.Prefix.Resuming
import Sparkpipe.Continuous.Controller
import Sparkpipe.Continuous.Lives
import Sparkpipe.Continuous.Ages
import Sparkpipe.Continuous.Rows
import Sparkpipe.Pipeline.State
import Sparkpipe.Pipeline.Client
import Sparkpipe.Pipeline.Books
import Sparkpipe.Pipeline.Falling
import Sparkpipe.Pipeline.Callbacks
import Sparkpipe.Pipeline.Agreement
import Sparkpipe.Lib.Greedy
import Sparkpipe.Speculation.Lookup
import Sparkpipe.Speculation.Policy
import Sparkpipe.Speculation.Tree
import Sparkpipe.Speculation.Verifier
import Sparkpipe.Shared.Index
import Sparkpipe.Shared.Exclusive
import Sparkpipe.Shared.Tracking
import Sparkpipe.Shared.Owners
import Sparkpipe.Shared.Snapshot
import Sparkpipe.Shared.Guards
import Sparkpipe.Shared.Holds
import Sparkpipe.Shared.Recovery
import Sparkpipe.Resident.RoundTrip
import Sparkpipe.Cache.Arena.Capacity
import Sparkpipe.Cache.Arena.Backing
import Sparkpipe.Cache.Arena.Placement
import Sparkpipe.Cache.Arena.Plans
import Sparkpipe.Cache.Arena.Limits
import Sparkpipe.Cache.Ledger.Quota
import Sparkpipe.Shard.Sections
import Sparkpipe.Shard.Gather
import Sparkpipe.Cache.Store.Vouched
import Sparkpipe.Transaction.Runs
import Sparkpipe.Transaction.Controller
import Sparkpipe.Transaction.Once
import Sparkpipe.Transaction.Retry
import Sparkpipe.Transaction.Window
import Sparkpipe.Topology.Pins
import Sparkpipe.Cache.Tier.Reads
import Sparkpipe.Cache.Tier.Orders
import Sparkpipe.Cache.Tier.Queue
import Sparkpipe.Cache.Tier.Refused
import Sparkpipe.Pass.Plan
import Sparkpipe.Rows.RoundMajor
import Sparkpipe.Rows.Spans
import Sparkpipe.Rows.Grouping
import Sparkpipe.Cache.Snapshot.RoundTrip
import Sparkpipe.Cache.Budget
import Sparkpipe.Batch.Prefill
import Sparkpipe.Tokenizer.Encoding
import Sparkpipe.Batch.Scheduler
