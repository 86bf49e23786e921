import Strata.Condition
import Strata.Policy
import Strata.Rule

/-!
The rule about targets: elements do not depend on targets that contain a pattern.
-/

namespace Strata.Rule

variable [Kinds]

/-- The name of the rule. -/
def dependencyPatternName : String := "dependency-pattern"

/-- How the description of a constraint begins: with the elements to which it applies. -/
def classesIn (layers : List String) : String :=
  if layers.isEmpty then "classes" else "classes in layers " ++ Text.bracketed layers

/-- Dependencies on targets that contain a pattern. -/
def dependOnTargetsContaining (pattern : String) : Condition Dependency :=
  .each ("depend on targets containing '" ++ pattern ++ "'") .dependency
    (fun d => Text.contains d.target pattern) Dependency.description

/-- The description of the rule that a constraint makes. -/
def dependencyPatternDescription (c : Constraint) : String :=
  if c.message.isEmpty then
    classesIn c.inLayers ++ " should " ++ (dependOnTargetsContaining c.pattern).never.description
  else c.message

/-- The rule that a constraint makes. -/
def dependencyPattern (layering : Layering) (c : Constraint) (priority : Priority)
    (limit : Option Nat) : Rule Graph :=
  .check <| .ofLog dependencyPatternName (dependencyPatternDescription c) priority
    (fun g => (dependOnTargetsContaining c.pattern).never.checkAll
      (g.dependencies.filter fun d => layering.selects c.inLayers d.origin) (.withLimit limit))
    fun log => [.debug
      (dependencyPatternName ++ ": " ++ toString log.size ++ " dependencies checked")]

end Strata.Rule
