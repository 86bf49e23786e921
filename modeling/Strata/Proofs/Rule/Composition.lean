import Strata.Proofs.Outcome.Violations
import Strata.Rule

/-!
Composed rules: what they make of the outcomes of their parts. The violations of all parts come one
after the other, the first of them if there is a limit, and the note is the first that a part has,
or else that of the limit.
-/

namespace Strata.Rule

variable [Kinds]

variable {γ : Type} {input : γ} {c : Composition} {parts : List (Rule γ)}

@[simp] lemma evaluate_check (input : γ) (c : Check γ) :
    evaluate input (.check c) = c.evaluate input := by rw [evaluate]

lemma evaluate_compose (input : γ) (c : Composition) (parts : List (Rule γ)) :
    evaluate input (.compose c parts) =
      ((Outcome.empty (description (.compose c parts)) c.priority).mergeAll
        (parts.map (evaluate input))).cut c.limit := by
  rw [evaluate, combine, evaluateParts_eq_map]
  cases c.limit <;> rfl

lemma rule_evaluate_compose :
    (evaluate input (.compose c parts)).rule = description (.compose c parts) := by
  rw [evaluate_compose, Outcome.rule_cut, Outcome.rule_mergeAll]
  rfl

lemma priority_evaluate_compose : (evaluate input (.compose c parts)).priority = c.priority := by
  rw [evaluate_compose, Outcome.priority_cut, Outcome.priority_mergeAll]
  rfl

section OnlyViolations

variable (h : ∀ r ∈ parts, (evaluate input r).OnlyViolations)

include h

/-- Before the cut a composed rule holds the violations of its parts and nothing else. -/
lemma onlyViolations_mergeAll (description : String) :
    ((Outcome.empty description c.priority).mergeAll
      (parts.map (evaluate input))).OnlyViolations := by
  refine Outcome.OnlyViolations.mergeAll (Outcome.onlyViolations_ofLog _ _ _) fun o ho => ?_
  obtain ⟨r, hr, rfl⟩ := List.mem_map.mp ho
  exact h r hr

lemma violations_evaluate_compose :
    (evaluate input (.compose c parts)).violations =
      limited c.limit (parts.flatMap fun r => (evaluate input r).violations) := by
  rw [evaluate_compose, Outcome.violations_cut (onlyViolations_mergeAll h _),
    Outcome.violations_mergeAll, List.flatMap_map]
  rfl

lemma note_evaluate_compose :
    (evaluate input (.compose c parts)).note =
      (parts.findSome? fun r => (evaluate input r).note).or
        (EventLog.limitNote c.limit
          (parts.flatMap fun r => (evaluate input r).violations).length) := by
  rw [evaluate_compose, Outcome.note_cut (onlyViolations_mergeAll h _), Outcome.note_mergeAll,
    Outcome.count, Outcome.violations_mergeAll, List.flatMap_map, List.findSome?_map]
  rfl

end OnlyViolations

end Strata.Rule
