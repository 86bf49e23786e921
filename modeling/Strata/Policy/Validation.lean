import Strata.Policy

/-!
Validation: whether what a policy says makes sense.

Every layer has a name of its own and says on which others it may depend, constraints have what
their kind needs, and no unknown layer is mentioned. `Policy.problem?` finds the first problem:
layers come first, then what is said about dependencies by the names of the layers in byte order,
then constraints in their order, and last layers about which nothing is said.
-/

namespace Strata.Policy

/-- What can be wrong with a policy. -/
inductive Problem where
  | layerTwice (layer : String)
  /-- Something is said about a layer that is not defined. -/
  | unknownLayer (layer : String)
  | unknownDependency (layer dependency : String)
  | selfDependency (layer : String)
  /-- The constraint at an index lacks its pattern. -/
  | noPattern (index : Nat)
  /-- The naming constraint at an index lacks targets or names. -/
  | noNaming (index : Nat)
  | unknownKind (index : Nat) (kind : String)
  | unknownConstraintLayer (index : Nat) (layer : String)
  /-- Nothing is said about a layer. -/
  | noEntry (layer : String)
  deriving DecidableEq

namespace Problem

/-- How a message about a constraint begins. -/
def constraintAt (index : Nat) : String := "constraints[" ++ toString index ++ "]: "

/-- What is wrong. -/
def detail : Problem → String
  | layerTwice layer => "layer '" ++ layer ++ "' is defined twice"
  | unknownLayer layer => "dependencies." ++ layer ++ ": unknown layer"
  | unknownDependency layer dependency =>
    "dependencies." ++ layer ++ ": unknown dep '" ++ dependency ++ "'"
  | selfDependency layer => "dependencies." ++ layer ++ ": self-dependency"
  | noPattern index => constraintAt index ++ Constraint.noDependencyPattern ++ " needs a pattern"
  | noNaming index =>
    constraintAt index ++ Constraint.namingRule
      ++ " needs target_matches and name_must_match or name_must_not_match"
  | unknownKind index kind => constraintAt index ++ "unknown type '" ++ kind ++ "'"
  | unknownConstraintLayer index layer =>
    constraintAt index ++ "unknown layer '" ++ layer ++ "'"
  | noEntry layer => "layer '" ++ layer ++ "' has no entry in [dependencies]"

/-- The wording of a problem. -/
def message (p : Problem) : String := "config validation: " ++ p.detail

end Problem

/-- The first name that stands in a list for the second time, or that is among those `seen` before
it. -/
def firstRepeated : List String → List String → Option String
  | _, [] => none
  | seen, n :: rest => if seen.contains n then some n else firstRepeated (n :: seen) rest

/-- Without a repeated name all names differ, from each other and from those seen before. -/
theorem firstRepeated_eq_none_iff {seen names : List String} :
    firstRepeated seen names = none ↔ names.Nodup ∧ ∀ n ∈ names, n ∉ seen := by
  induction names generalizing seen with
  | nil => simp [firstRepeated]
  | cons n rest ih =>
    by_cases h : n ∈ seen
    · simp [firstRepeated, h]
    · simp only [firstRepeated, List.contains_iff_mem, h, if_false, ih, List.nodup_cons]
      grind

/-- What is wrong with what is said about the dependencies of one layer. -/
def dependencyProblem? (layers : List String) (e : String × List String) : Option Problem :=
  if !layers.contains e.1 then some (.unknownLayer e.1)
  else match e.2.find? fun d => !layers.contains d with
    | some d => some (.unknownDependency e.1 d)
    | none => if e.2.contains e.1 then some (.selfDependency e.1) else none

/-- What is wrong with the fields of a constraint, given its index. -/
def shapeProblem? (index : Nat) (c : Constraint) : Option Problem :=
  if c.kind = Constraint.noDependencyPattern then
    if c.pattern.isEmpty then some (.noPattern index) else none
  else if c.kind = Constraint.namingRule then
    if c.targetMatches.isEmpty || (c.nameMustMatch.isEmpty && c.nameMustNotMatch.isEmpty) then
      some (.noNaming index)
    else none
  else some (.unknownKind index c.kind)

/-- What is wrong with a constraint, given its index. -/
def constraintProblem? (layers : List String) (c : Constraint × Nat) : Option Problem :=
  (shapeProblem? c.2 c.1).or <|
    (c.1.inLayers.find? fun l => !layers.contains l).map (.unknownConstraintLayer c.2)

/-- What is said about dependencies, by the names of the layers in byte order. -/
def sortedDependencies (p : Policy) : List (String × List String) :=
  p.dependencies.entries.mergeSort fun a b => Text.atMost a.1 b.1

/-- The first problem of a policy, if it has one. -/
def problem? (p : Policy) : Option Problem :=
  let layers := p.layers.map Layer.name
  ((firstRepeated [] layers).map .layerTwice)
    |>.or (p.sortedDependencies.findSome? (dependencyProblem? layers))
    |>.or (p.constraints.zipIdx.findSome? (constraintProblem? layers))
    |>.or ((layers.find? fun l => !p.dependencies.has l).map .noEntry)

end Strata.Policy
