import ConstantResolution.Main
import ConstantResolution.Session.Step
import ConstantResolution.Proofs.Contract
import ConstantResolution.Proofs.Refusal
import ConstantResolution.Proofs.Agreement
import ConstantResolution.Proofs.Reachability
import ConstantResolution.Proofs.World.Links
import ConstantResolution.Proofs.World.Steps
import ConstantResolution.Proofs.World.Resolution
import ConstantResolution.Proofs.World.Propagation
import ConstantResolution.Proofs.World.Generations
import ConstantResolution.Proofs.World.Actions
import ConstantResolution.Proofs.World.Calm
import ConstantResolution.Proofs.World.Holding
import ConstantResolution.Proofs.World.Acyclicity
import ConstantResolution.Proofs.Expansion
import ConstantResolution.Proofs.World.AncestorOrder
import ConstantResolution.Proofs.World.Dependents
import ConstantResolution.Proofs.Site.Freshness
import ConstantResolution.Proofs.Site.History
import ConstantResolution.Proofs.Site.Calls
import ConstantResolution.Proofs.Site.Agreement
import ConstantResolution.Proofs.Store.Actions
import ConstantResolution.Proofs.Store.Realms
import ConstantResolution.Proofs.Store.Steps
import ConstantResolution.Proofs.Store.Tracing
import ConstantResolution.Proofs.Store.Agreement
import ConstantResolution.Proofs.Benchmark.Workload
import ConstantResolution.Proofs.Benchmark.Agreement
import ConstantResolution.Proofs.Session.Actions
import ConstantResolution.Proofs.Session.Aside
import ConstantResolution.Proofs.Session.Commands
import ConstantResolution.Proofs.Session.Runs
import ConstantResolution.Proofs.Session.Tracing
import ConstantResolution.Proofs.Session.Coherence
import ConstantResolution.Proofs.Session.Generations
import ConstantResolution.Proofs.Session.Crossing
import ConstantResolution.Proofs.Session.Ancestry
import ConstantResolution.Proofs.Session.AncestorOrder
import ConstantResolution.Proofs.Session.Refusals
import ConstantResolution.Proofs.Session.Agreement
import ConstantResolution.Proofs.Session.Policies
import ConstantResolution.Proofs.Session.Ledger
import ConstantResolution.Proofs.Store.Lookups
import ConstantResolution.Proofs.Session.Lookups
import ConstantResolution.Proofs.Store.Counters
import ConstantResolution.Proofs.Session.Counters
import ConstantResolution.Proofs.Session.NotFound
import ConstantResolution.Proofs.World.Liveness
import ConstantResolution.Proofs.Store.Liveness
import ConstantResolution.Proofs.Session.Liveness
import ConstantResolution.Proofs.Json.Literal
import ConstantResolution.Proofs.Json.Numeral
import ConstantResolution.Proofs.Json.RoundTrip
import ConstantResolution.Proofs.Binary64.Arithmetic
import ConstantResolution.Proofs.Decimal.Shortest
import ConstantResolution.Proofs.Json.Number
import ConstantResolution.Proofs.Benchmark.Report
import ConstantResolution.Proofs.Site.Rows
import ConstantResolution.Proofs.Silence
import ConstantResolution.Proofs.Site.Turns
import ConstantResolution.Proofs.Site.Thrashing
import ConstantResolution.Proofs.Benchmark.Counters
import ConstantResolution.Proofs.Text.Segments
import ConstantResolution.Proofs.World.Naming
import ConstantResolution.Proofs.Store.Naming
import ConstantResolution.Proofs.Session.Naming
import ConstantResolution.Proofs.Store.Territory
import ConstantResolution.Proofs.Store.Isolation
import ConstantResolution.Proofs.Session.Isolation
import ConstantResolution.Proofs.World.Shadowing
import ConstantResolution.Proofs.Site.Overflow
import ConstantResolution.Proofs.Session.Overflow
import ConstantResolution.Proofs.World.Reopening
import ConstantResolution.Proofs.Store.Reopening
import ConstantResolution.Proofs.Session.Reopening
import ConstantResolution.Proofs.Store.Sites
import ConstantResolution.Proofs.Store.Invalidation
import ConstantResolution.Proofs.Benchmark.Sites
import ConstantResolution.Proofs.Session.Sites
import ConstantResolution.Proofs.Session.Invalidation
import ConstantResolution.Proofs.Benchmark.Evaluations
import ConstantResolution.Proofs.Site.Stamps
import ConstantResolution.Proofs.Commuting
import ConstantResolution.Proofs.World.Dispatch
import ConstantResolution.Proofs.Site.Dispatch
import ConstantResolution.Proofs.Session.Dispatch
