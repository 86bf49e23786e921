import Strata.Condition
import Strata.Layering
import Strata.Rule

/-!
The rule about layers: elements of a layer depend on that layer, on layers it may depend on, and on
what lies outside all layers.

The rule is composed of one check for each layer. Limits count for the merged outcome only.
-/

namespace Strata.Rule

variable [Kinds]

/-- The name of the rule. -/
def layerDependenciesName : String := "layer-dependencies"

/-- What the dependencies of the elements of a layer are checked against. -/
def onlyDependOn (layering : Layering) (layer : String) (allowed : List String) :
    Condition Dependency :=
  .each
    (if allowed.isEmpty then "not depend on any other layer"
      else "only depend on layers " ++ Text.bracketed allowed)
    .dependency
    (fun d => (layering.layerOf? d.target).all fun t => t == layer || allowed.contains t)
    Dependency.description

/-- The check of one layer. -/
def layerCheck (layering : Layering) (layer : String) (allowed : List String)
    (priority : Priority) : Check Graph :=
  let condition := onlyDependOn layering layer allowed
  .ofLog layerDependenciesName ("Layer '" ++ layer ++ "' should " ++ condition.description) priority
    (fun g => condition.checkAll
      (g.dependencies.filter fun d => layering.isIn d.origin layer) .empty)
    fun log =>
      [.debug ("Layer '" ++ layer ++ "': " ++ toString log.size ++ " dependencies checked")]

/-- The rule about all layers; `allowed` lists the layers on which a layer may depend. -/
def layerDependencies (layering : Layering) (allowed : String → List String) (priority : Priority)
    (limit : Option Nat) (parallel : Bool) : Rule Graph :=
  .compose
    { name := layerDependenciesName
      described := some
        ("Layered architecture consisting of layers " ++ Text.bracketed layering.layers)
      priority, limit, parallel }
    (layering.layers.map fun layer => .check (layerCheck layering layer (allowed layer) priority))

end Strata.Rule
