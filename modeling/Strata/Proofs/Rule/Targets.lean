import Strata.Proofs.Rule.Findings

/-!
What the rule about targets reports. The rule is put as the opposite of a condition: the events of
the condition are recorded in a log of their own, turned round and recorded again, and only this
second log has a limit. Main statement: `violations_dependencyPattern`, what comes of this is one
violation for each dependency to which the constraint objects (`Constraint.Rejects`), up to the
limit, and the dependencies to which it does not object leave no trace.
-/

namespace Strata

namespace Constraint

variable (c : Constraint) (layering : Layering)

/-- A dependency starts in one of the layers of a constraint, if this has layers, and its target
contains the pattern. -/
def Rejects (d : Dependency) : Prop :=
  (c.inLayers = [] ∨ ∃ layer ∈ layering.layerOf? d.origin, layer ∈ c.inLayers) ∧
    c.pattern.toList <:+: d.target.toList

instance : DecidablePred (c.Rejects layering) := fun _ => inferInstanceAs (Decidable (_ ∧ _))

lemma rejects_iff {d : Dependency} :
    c.Rejects layering d ↔
      (layering.selects c.inLayers d.origin && Text.contains d.target c.pattern) = true := by
  rw [Rejects, Bool.and_eq_true, Layering.selects_iff, Text.contains_iff]

lemma targetViolations_eq [Kinds] (g : Graph) :
    c.targetViolations layering g =
      (g.dependencies.filter (c.Rejects layering)).map Dependency.violation := by
  refine congrArg (List.map Dependency.violation) (List.filter_congr fun d _ => ?_)
  rw [Bool.eq_iff_iff, decide_eq_true_iff, rejects_iff]

end Constraint

namespace Rule

variable [Kinds]

/-- The rule about targets reads nothing of a graph but the dependencies it rejects. -/
lemma evaluate_dependencyPattern (layering : Layering) (c : Constraint) (priority : Priority)
    (limit : Option Nat) (g : Graph) :
    evaluate g (dependencyPattern layering c priority limit) =
      ⟨dependencyPatternDescription c, priority,
        limited limit ((g.dependencies.filter (c.Rejects layering)).map Dependency.violation),
        EventLog.limitNote limit (g.dependencies.filter (c.Rejects layering)).length⟩ := by
  have hfinds := finds_dependencyPattern layering c priority limit
  refine Outcome.ext ?_ (hfinds.priority_eq g) ?_ ?_
  · rw [dependencyPattern, evaluate_check]
    rfl
  · rw [hfinds.violations_eq g, c.targetViolations_eq]
  · rw [hfinds.note_eq g, c.targetViolations_eq, List.length_map]

/-- **What the rule about targets reports**: the dependencies of the graph that the constraint
rejects, in order and as often as they are there, up to the limit. Each has itself as its only
payload and its description as its only line. A graph without all other dependencies is told alike,
so these take no place under the limit, and if some rejected ones are left out, the note says how
many there are. -/
theorem violations_dependencyPattern (layering : Layering) (c : Constraint) (priority : Priority)
    (limit : Option Nat) (g : Graph) :
    let rule := dependencyPattern layering c priority limit
    let told := evaluate g rule
    let rejected := g.dependencies.filter (c.Rejects layering)
    told.violations =
        limited limit (rejected.map fun d => .simple [.dependency d] false [d.description]) ∧
      evaluate { g with dependencies := rejected } rule = told ∧
      told.note = limit.bind fun n =>
        if n < rejected.length then
          some (toString rejected.length ++ " times, only the first " ++ toString n ++
            " are listed")
        else none := by
  intro rule told rejected
  have htold : told = _ := evaluate_dependencyPattern layering c priority limit g
  have hrest : rejected.filter (c.Rejects layering) = rejected := by
    rw [List.filter_filter]
    exact List.filter_congr fun d _ => Bool.and_self _
  refine ⟨by rw [htold]; rfl, ?_, by rw [htold]; rfl⟩
  rw [htold, evaluate_dependencyPattern, show List.filter _ rejected = rejected from hrest]

end Rule

end Strata
