import Strata.Graph.Exclusion
import Strata.Policy.Validation
import Strata.Rule.LayerDependencies
import Strata.Rule.Naming
import Strata.Settings

/-!
The engine: the rules that a policy and settings make, and their evaluation against graphs.

Rules that are not enabled are not built. The rule about layers comes first, then one rule for each
constraint in the order of the policy. Settings win over the priority of a constraint.
-/

namespace Strata

variable [Kinds]

/-- Rules to be evaluated, and patterns of names that are left out of the graph before. -/
structure Engine where
  rules : List (Rule Graph)
  exclude : List String

namespace Engine

/-- The names of all rules there are, with what they are about. -/
def available : List (String × String) :=
  [(Rule.layerDependenciesName, "Layers may only depend on the layers listed in [dependencies]"),
   (Rule.dependencyPatternName,
    "Classes must not depend on targets containing a pattern (no-dependency-pattern)"),
   (Rule.namingName,
    "Dependencies on matching targets require matching class names (naming-rule)")]

/-! ### Building -/

/-- The priority of a rule: the one that is set, then that of the constraint, then medium. -/
def priorityFor (s : Settings) (rule : String) (own : Option Priority) : Priority :=
  ((s.priorityOf? rule).or own).getD default

/-- The rule about layers, unless there are none. -/
def layerRule? (p : Policy) (s : Settings) : Option (Rule Graph) :=
  if s.isEnabled Rule.layerDependenciesName && !p.isEmpty then
    some (Rule.layerDependencies (.ofLayers p.layers) p.allowed
      (priorityFor s Rule.layerDependenciesName none) s.maxViolations s.parallel)
  else none

/-- The rule that a constraint makes. -/
def constraintRule? (p : Policy) (s : Settings) (c : Constraint) : Option (Rule Graph) :=
  if c.kind = Constraint.noDependencyPattern ∧ s.isEnabled Rule.dependencyPatternName then
    some (Rule.dependencyPattern (.ofLayers p.layers) c
      (priorityFor s Rule.dependencyPatternName c.priority) s.maxViolations)
  else if c.kind = Constraint.namingRule ∧ s.isEnabled Rule.namingName then
    some (Rule.naming (.ofLayers p.layers) c (priorityFor s Rule.namingName c.priority)
      s.maxViolations)
  else none

/-- The rules that a policy and settings make, whether or not the policy makes sense. -/
def rulesFor (p : Policy) (s : Settings) : List (Rule Graph) :=
  (layerRule? p s).toList ++ p.constraints.filterMap (constraintRule? p s)

/-- The engine for a policy, which has to make sense, and settings. -/
def build (p : Policy) (s : Settings) : Except Policy.Problem Engine :=
  match p.problem? with
  | some problem => .error problem
  | none => .ok ⟨rulesFor p s, p.exclude⟩

/-! ### Evaluation -/

/-- The rules of some names, all rules if no names are given. -/
def selected (e : Engine) (only : List String) : List (Rule Graph) :=
  e.rules.filter fun r => only.isEmpty || only.contains r.name

/-- The outcomes of the rules of some names, all rules if no names are given. -/
def evaluateOnly (e : Engine) (g : Graph) (only : List String) :
    Except BadPattern (List Outcome) := do
  let rest ← g.withoutMatching e.exclude
  pure ((e.selected only).map (Rule.evaluate rest))

/-- The outcomes of all rules. -/
def evaluate (e : Engine) (g : Graph) : Except BadPattern (List Outcome) := e.evaluateOnly g []

/-! ### Progress -/

/-- What building the engine tells. -/
def buildProgress (e : Engine) : List Progress :=
  [.debug ("Built " ++ toString e.rules.length ++ " rules")]

/-- What is told of names that no rule has. -/
def unknownNames (only : List String) : List Progress :=
  (only.filter fun n => !(available.map Prod.fst).contains n).map fun n =>
    .warn ("Unknown rule '" ++ n ++ "' ignored")

/-- What leaving names out of a graph tells, if anything was to be left out. -/
def exclusionProgress (exclude : List String) (g rest : Graph) : List Progress :=
  if exclude.isEmpty then []
  else [.debug ("Excluded " ++ toString (g.elements.length - rest.elements.length)
    ++ " elements and " ++ toString (g.dependencies.length - rest.dependencies.length)
    ++ " dependencies")]

/-- What evaluation tells. If a pattern is none, nothing more comes after the unknown names. -/
def progress (e : Engine) (g : Graph) (only : List String) : List Progress :=
  unknownNames only ++
    match g.withoutMatching e.exclude, e.evaluateOnly g only with
    | .ok rest, .ok outcomes =>
      exclusionProgress e.exclude g rest
        ++ (e.selected only).flatMap (fun r =>
          .debug ("Evaluating rule " ++ r.name) :: r.progress rest)
        ++ [.info ("Evaluated " ++ toString outcomes.length ++ " rules against "
          ++ toString rest.dependencies.length ++ " dependencies, "
          ++ toString (outcomes.filter (·.hasViolation)).length ++ " violated")]
    | _, _ => []

end Engine

end Strata
