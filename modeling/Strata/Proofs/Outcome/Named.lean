import Mathlib.Logic.Function.Basic
import Mathlib.Tactic.Lemma
import Strata.Outcome

/-!
Outcomes under names. A client makes outcomes one after the other and keeps each of them under a
name, perhaps one that was taken (`Outcome.Action`). Main statement: `run_of_forall_target_ne`, an
outcome stays what it is, whatever is made of it, as long as nothing else is kept under its name.
-/

namespace Strata

variable [Kinds]

/-- Outcomes under names. -/
abbrev Outcomes := String → Outcome

namespace Outcome

/-- How an outcome is made, and the name under which it is kept. -/
inductive Action where
  | ofLog (target rule : String) (log : EventLog) (priority : Priority)
  | copy (target source : String)
  /-- The violations of `part` are appended to the outcome under the name `target`. -/
  | merge (target part : String)
  | narrow (target source : String) (keep : String → Bool)
  | limitTo (target source : String) (limit : Nat)

namespace Action

/-- The name under which an action keeps what it makes. -/
def target : Action → String
  | ofLog target _ _ _ => target
  | copy target _ => target
  | merge target _ => target
  | narrow target _ _ => target
  | limitTo target _ _ => target

/-- What an action makes of the outcomes that are there. -/
def make (kept : Outcomes) : Action → Outcome
  | ofLog _ rule log priority => .ofLog rule log priority
  | copy _ source => kept source
  | merge target part => (kept target).merge (kept part)
  | narrow _ source keep => (kept source).narrow keep
  | limitTo _ source limit => (kept source).limitTo limit

end Action

end Outcome

namespace Outcomes

variable (kept : Outcomes)

/-- The outcomes after an action. -/
def act (action : Outcome.Action) : Outcomes :=
  Function.update kept action.target (action.make kept)

/-- The outcomes after several actions, one after the other. -/
def run (actions : List Outcome.Action) : Outcomes := actions.foldl act kept

lemma act_target (action : Outcome.Action) :
    kept.act action action.target = action.make kept := Function.update_self _ _ _

variable {kept}

lemma act_of_ne {action : Outcome.Action} {name : String} (h : action.target ≠ name) :
    kept.act action name = kept name := Function.update_of_ne h.symm _ _

/-- **Actions change nothing but their targets**, however many there are. -/
lemma run_of_forall_target_ne {actions : List Outcome.Action} {name : String}
    (h : ∀ action ∈ actions, action.target ≠ name) : kept.run actions name = kept name := by
  induction actions generalizing kept with
  | nil => rfl
  | cons action actions ih =>
      calc kept.run (action :: actions) name
          = (kept.act action).run actions name := rfl
        _ = kept.act action name := ih fun a ha => h a (by simp [ha])
        _ = kept name := act_of_ne (h action (by simp))

end Outcomes

end Strata
