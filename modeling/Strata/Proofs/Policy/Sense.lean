import Mathlib.Tactic.Lemma
import Strata.Policy.Validation

/-!
When a policy makes sense. `problem?` looks at one thing after the other and stops at the first
problem, with what is said about dependencies put in order before. That there is no problem is said
here without any order (`problem?_eq_none_iff`).
-/

namespace Strata.Policy

/-- The names of the layers, in order. -/
def layerNames (p : Policy) : List String := p.layers.map Layer.name

/-- Putting entries in order neither adds one nor drops one. -/
lemma mem_sortedDependencies {p : Policy} {e : String × List String} :
    e ∈ p.sortedDependencies ↔ e ∈ p.dependencies.entries := List.mem_mergeSort

lemma firstRepeated_nil_eq_none_iff {names : List String} :
    firstRepeated [] names = none ↔ names.Nodup := by
  rw [firstRepeated_eq_none_iff]
  simp

/-- A policy makes sense iff its layers have names of their own, nothing is wrong with any entry or
constraint, and something is said about each layer. -/
lemma problem?_eq_none_iff {p : Policy} :
    p.problem? = none ↔
      p.layerNames.Nodup ∧
        (∀ e ∈ p.dependencies.entries, dependencyProblem? p.layerNames e = none) ∧
        (∀ c ∈ p.constraints.zipIdx, constraintProblem? p.layerNames c = none) ∧
        ∀ layer ∈ p.layerNames, p.dependencies.has layer = true := by
  simp only [problem?, Option.or_eq_none_iff, Option.map_eq_none_iff, List.findSome?_eq_none_iff,
    List.find?_eq_none, mem_sortedDependencies, Bool.not_eq_true', Bool.not_eq_false, and_assoc]
  exact and_congr_left' firstRepeated_nil_eq_none_iff

end Strata.Policy
