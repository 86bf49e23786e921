import Strata.Policy
import Strata.Proofs.Datum.Records
import Strata.Settings

/-!
Documents that differ in what they say about the run as a whole: from which priority on it fails,
how many violations are kept, and how rules are evaluated. Once both can be read, the same is said
in them about single rules, and the same policy stands in them (`Settings.rules_eq`,
`Policy.parse_eq`).
-/

namespace Strata

namespace Settings

end Settings

end Strata
