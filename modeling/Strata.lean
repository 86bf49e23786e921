import Strata.FileTree
import Strata.Main
import Strata.Proofs.Command.Passing
import Strata.Proofs.Graph.RoundTrip
import Strata.Proofs.Outcome.Narrowing
import Strata.Proofs.Rule.Truncation
import Strata.Proofs.Rule.Findings
import Strata.Proofs.Engine.Exclusion
import Strata.Proofs.Command.Excluding
import Strata.Proofs.Engine.Order
import Strata.Proofs.Rule.Naming
import Strata.Proofs.Rule.Nesting
import Strata.Proofs.Report.Listing
import Strata.Proofs.Rule.Targets
import Strata.Proofs.EventLog.Recording
import Strata.Proofs.Outcome.Capping
import Strata.Proofs.Outcome.Delivery
import Strata.Proofs.Outcome.Typed
import Strata.Proofs.Outcome.Merging
import Strata.Proofs.Outcome.Fusion
import Strata.Proofs.Engine.Delivery
import Strata.Proofs.Condition.Stacking
import Strata.Proofs.Policy.FirstProblem
import Strata.Proofs.Engine.Building
import Strata.Proofs.Engine.Selecting
import Strata.Proofs.Glob.Matching
import Strata.Proofs.Graph.Patterns
import Strata.Proofs.Engine.Totals
import Strata.Proofs.Engine.UnknownNames
import Strata.Proofs.Graph.Packages
import Strata.Proofs.Graph.Description
import Strata.Proofs.Command.RuleNames
import Strata.Proofs.Json.Indented
import Strata.Proofs.Report.Decoding
import Strata.Proofs.Outcome.Invariant
