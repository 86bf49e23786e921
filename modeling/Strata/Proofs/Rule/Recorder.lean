import Strata.Proofs.Condition
import Strata.Proofs.Outcome.Violations
import Strata.Rule

/-!
Recorders: checks that record some events about the input in a log of their own, whatever happens
to the log meanwhile. All rules without parts are of this kind. The limit of a recorder decides how
many of its violations are kept and whether that is noted (`violations_evaluate`, `note_evaluate`),
and nothing else.
-/

namespace Strata

variable [Kinds]

variable {γ : Type}

/-- A check that records events about the input in a log with a limit. -/
structure Recorder (γ : Type) where
  name : String
  description : String
  priority : Priority
  limit : Option Nat
  events : γ → List Event
  progress : EventLog → List Progress

namespace Recorder

/-- The rule without parts that a recorder is. -/
def toCheck (r : Recorder γ) : Check γ :=
  .ofLog r.name r.description r.priority
    (fun input => (EventLog.withLimit r.limit).addAll (r.events input)) r.progress

/-- A check that fills its log with the events of a recorder is that recorder. -/
lemma ofLog_eq_toCheck (r : Recorder γ) {collect : γ → EventLog}
    (h : ∀ input, collect input = (EventLog.withLimit r.limit).addAll (r.events input)) :
    Check.ofLog r.name r.description r.priority collect r.progress = r.toCheck := by
  rw [funext h]
  rfl

variable (r : Recorder γ) (input : γ)

lemma onlyViolations_evaluate : (r.toCheck.evaluate input).OnlyViolations :=
  Outcome.onlyViolations_ofLog _ _ _

lemma violations_evaluate :
    (r.toCheck.evaluate input).violations =
      limited r.limit ((r.events input).filter (·.isViolation)) :=
  Outcome.violations_ofLog_addAll r.description r.limit (r.events input) r.priority

lemma note_evaluate :
    (r.toCheck.evaluate input).note =
      EventLog.limitNote r.limit ((r.events input).countP (·.isViolation)) :=
  Outcome.note_ofLog_addAll r.description r.limit (r.events input) r.priority

end Recorder

end Strata
