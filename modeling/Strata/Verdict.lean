import Strata.Engine
import Strata.Report.Listing

/-!
Verdicts: whether a code base passes, once its rules have been evaluated.

A check fails if some rule of the threshold's priority or a higher one is violated. Main
statement: `passes_iff`.
-/

namespace Strata

variable [Kinds]

/-- The outcomes of all rules that were evaluated, and the priority that makes a check fail. -/
structure Verdict where
  outcomes : List Outcome
  threshold : Priority

namespace Verdict

/-- Whether an outcome makes a check fail. -/
def fails (threshold : Priority) (o : Outcome) : Bool :=
  o.hasViolation && decide (threshold ≤ o.priority)

/-- The outcomes that make the check fail. -/
def failing (v : Verdict) : List Outcome := v.outcomes.filter (fails v.threshold)

/-- Whether nothing makes the check fail. -/
def passes (v : Verdict) : Bool := v.failing.isEmpty

theorem passes_iff {v : Verdict} :
    v.passes = true ↔ ∀ o ∈ v.outcomes, o.hasViolation = true → ¬ v.threshold ≤ o.priority := by
  simp [passes, failing, fails]

/-- The reports of all rules. -/
def reports (v : Verdict) : List Report := v.outcomes.map Outcome.report

/-- What a verdict tells. -/
def progress (v : Verdict) : List Progress :=
  if v.passes then []
  else [.debug (toString v.failing.length ++ " rule(s) at or above " ++ v.threshold.label
    ++ " were violated")]

end Verdict

end Strata
