import Strata.Proofs.Rule.Recorder
import Strata.Rule.Naming

/-!
The rules that constraints make, as recorders. The rule about targets records one event for each
dependency of the selected elements, the rule about names one for each selected element that has a
matching dependency; neither depends on the limit.
-/

namespace Strata.Rule

variable [Kinds]

/-- The recorder of a constraint on targets: a dependency is satisfied if its target does not
contain the pattern. -/
def dependencyPatternRecorder (layering : Layering) (c : Constraint) (priority : Priority)
    (limit : Option Nat) : Recorder Graph where
  name := dependencyPatternName
  description := dependencyPatternDescription c
  priority
  limit
  events g := (g.dependencies.filter fun d => layering.selects c.inLayers d.origin).map fun d =>
    .single (.dependency d) (!Text.contains d.target c.pattern) d.description
  progress log :=
    [.debug (dependencyPatternName ++ ": " ++ toString log.size ++ " dependencies checked")]

lemma dependencyPattern_eq (layering : Layering) (c : Constraint) (priority : Priority)
    (limit : Option Nat) :
    dependencyPattern layering c priority limit =
      .check (dependencyPatternRecorder layering c priority limit).toCheck := by
  have hrec : (dependOnTargetsContaining c.pattern).never.Records fun d =>
      [.single (.dependency d) (!Text.contains d.target c.pattern) d.description] :=
    Condition.Records.never (Condition.records_each _ _ _ _)
  exact congrArg Rule.check <|
    (dependencyPatternRecorder layering c priority limit).ofLog_eq_toCheck fun _ =>
      hrec.checkAll_map _ _

/-- The recorder of a constraint on names. -/
def namingRecorder (layering : Layering) (c : Constraint) (priority : Priority)
    (limit : Option Nat) : Recorder Graph where
  name := namingName
  description := namingDescription c
  priority
  limit
  events g := (g.elements.filter fun e => layering.selects c.inLayers e.name).filterMap
    (namingEvent? c g)
  progress log := [.debug (namingName ++ ": " ++ toString log.size ++ " elements matched")]

lemma naming_eq (layering : Layering) (c : Constraint) (priority : Priority)
    (limit : Option Nat) :
    naming layering c priority limit = .check (namingRecorder layering c priority limit).toCheck :=
  rfl

end Strata.Rule
