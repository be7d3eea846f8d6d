import HierQuery.Cli.Directory
import HierQuery.Main
import HierQuery.Proofs.Plan.Propagation
import HierQuery.Proofs.Store.Atomicity
import HierQuery.Proofs.Store.Discard
import HierQuery.Proofs.Store.History
import HierQuery.Proofs.Plan.Reopening
import HierQuery.Proofs.Plan.Crowd
import HierQuery.Proofs.Cli.Scanning
import HierQuery.Proofs.Schema.Issuing
import HierQuery.Proofs.Cursor.Correspondence
import HierQuery.Proofs.Plan.Accounting
import HierQuery.Proofs.Plan.Bookkeeping
import HierQuery.Proofs.Plan.Scoping
import HierQuery.Proofs.Plan.Typing
import HierQuery.Proofs.Store.BackEnds
import HierQuery.Proofs.Schema.Keys
import HierQuery.Proofs.Plan.Limiting
import HierQuery.Proofs.Plan.Tracing
import HierQuery.Proofs.Plan.Reassociation
import HierQuery.Proofs.Plan.CountReading
import HierQuery.Proofs.Plan.SelfJoin
import HierQuery.Proofs.Store.Counters
import HierQuery.Proofs.Store.Maintenance
import HierQuery.Proofs.Fixture.WrittenKeys
import HierQuery.Proofs.Cli.Metering
import HierQuery.Proofs.HKey.Ancestry
import HierQuery.Proofs.HKey.Order
import HierQuery.Proofs.Json.Keys
import HierQuery.Proofs.Log.Lines
import HierQuery.Proofs.Cli.Lines
