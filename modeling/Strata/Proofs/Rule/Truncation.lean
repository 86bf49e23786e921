import Strata.Proofs.Outcome.Shortening
import Strata.Proofs.Rule.Composition
import Strata.Proofs.Rule.Recorder

/-!
Truncation in composed rules. Any part of a rule may have a limit, and so may every rule composed on
the way to the whole. Main statement: `evaluate_toRule_shortens`, whatever the limits, what is
reported are violations of the rule without limits, in the same order, and there is a note exactly
if some of these are missing.
-/

namespace Strata

variable [Kinds]

/-- A rule over recorders, with the limits of all its parts in sight. -/
inductive RuleTree (γ : Type) where
  | leaf (r : Recorder γ)
  | node (c : Composition) (parts : List (RuleTree γ))

namespace RuleTree

variable {γ : Type}

mutual

/-- The rule that is evaluated. -/
def toRule : RuleTree γ → Rule γ
  | leaf r => .check r.toCheck
  | node c parts => .compose c (toRules parts)

/-- The rules that are evaluated. -/
def toRules : List (RuleTree γ) → List (Rule γ)
  | [] => []
  | t :: rest => toRule t :: toRules rest

end

mutual

/-- The same tree with all limits removed. -/
def unlimited : RuleTree γ → RuleTree γ
  | leaf r => leaf { r with limit := none }
  | node c parts => node { c with limit := none } (unlimitedParts parts)

/-- The same trees with all limits removed. -/
def unlimitedParts : List (RuleTree γ) → List (RuleTree γ)
  | [] => []
  | t :: rest => unlimited t :: unlimitedParts rest

end

mutual

/-- The induction over the tree: what a part leaves out is noted there, and what the whole leaves
out is noted by merging and cutting. -/
lemma shortens_evaluate (input : γ) : ∀ t : RuleTree γ,
    Outcome.Shortens (t.unlimited.toRule.evaluate input) (t.toRule.evaluate input)
  | leaf r => by
      rw [unlimited, toRule, toRule, Rule.evaluate_check, Rule.evaluate_check]
      exact .ofLog_addAll r.limit (r.events input)
  | node c parts => by
      rw [unlimited, toRule, toRule, Rule.evaluate_compose, Rule.evaluate_compose]
      have hparts := forall₂_shortens_evaluate input parts
      exact ((Outcome.Shortens.empty _ _ _ _).mergeAll hparts).cut c.limit

/-- The induction over the parts of a tree. -/
lemma forall₂_shortens_evaluate (input : γ) : ∀ parts : List (RuleTree γ),
    List.Forall₂ Outcome.Shortens ((toRules (unlimitedParts parts)).map (Rule.evaluate input))
      ((toRules parts).map (Rule.evaluate input))
  | [] => .nil
  | t :: rest => .cons (shortens_evaluate input t) (forall₂_shortens_evaluate input rest)

end

/-- **No silent truncation**: whatever the limits on the parts of a rule and on the whole, what is
reported are violations of the same rule without limits, in order, and the report has a note
exactly if there are fewer than there. -/
theorem evaluate_toRule_shortens (t : RuleTree γ) (input : γ) :
    let full := t.unlimited.toRule.evaluate input
    let short := t.toRule.evaluate input
    short.violations.Sublist full.violations ∧
      (short.report.messages.hasNote = true ↔
        short.violations.length < full.violations.length) := by
  have h := shortens_evaluate input t
  exact ⟨h.sublist, h.isSome_note_iff⟩

end RuleTree

end Strata
