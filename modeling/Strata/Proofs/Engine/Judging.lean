import Strata.Proofs.Engine.Capping
import Strata.Proofs.Rule.Findings
import Strata.Verdict

/-!
Whether rules are violated. That depends neither on how many violations are kept, as long as one is
(`judgesLike_selected`), nor on whether parts are evaluated at the same time
(`judgesLike_selected_of_rules_eq`). The priority of an outcome is that of its rule, whatever the
parts of the rule say (`priority_evaluate`).
-/

namespace Strata

/-- Whether a rule is enabled turns on what is set under its name. -/
lemma Settings.isEnabled_congr {s s' : Settings} {name : String}
    (h : s'.rules.get? name = s.rules.get? name) : s'.isEnabled name = s.isEnabled name := by
  rw [isEnabled, isEnabled, h]

/-- The priority of a rule turns on what is set under its name, besides what it asks for itself. -/
lemma Engine.priorityFor_congr {s s' : Settings} {name : String}
    (h : s'.rules.get? name = s.rules.get? name) (own : Option Priority) :
    priorityFor s' name own = priorityFor s name own := by
  rw [priorityFor, priorityFor, Settings.priorityOf?, Settings.priorityOf?, h]

variable [Kinds]

/-- Two outcomes count alike: they have one priority, and both hold violations or neither does. -/
structure Outcome.CountsLike (o o' : Outcome) : Prop where
  priority_eq : o'.priority = o.priority
  hasViolation_eq : o'.hasViolation = o.hasViolation

/-- A cut that leaves something does not hide that there are violations. -/
lemma Outcome.CutAt.countsLike {m : Nat} {full short : Outcome} (h : CutAt m full short)
    (hm : m ≠ 0) : CountsLike full short where
  priority_eq := h.priority_eq
  hasViolation_eq := by
    have hcut : short.violations = limited (some m) full.violations := by
      rw [h.violations_eq, limited_some_eq_take_min]
      rfl
    rw [Bool.eq_iff_iff, hasViolation_iff, hasViolation_iff, hcut]
    exact not_congr (limited_eq_nil_iff (by simpa using hm))

/-- Two rules of one name judge alike. -/
structure Rule.JudgesLike (r r' : Rule Graph) : Prop where
  name_eq : r'.name = r.name
  countsLike : ∀ g, Outcome.CountsLike (evaluate g r) (evaluate g r')

lemma Rule.JudgesLike.refl (r : Rule Graph) : JudgesLike r r := ⟨rfl, fun _ => ⟨rfl, rfl⟩⟩

/-- It does not matter whether the checks of the layers are made at the same time. -/
lemma Rule.evaluate_layerDependencies_parallel (layering : Layering)
    (allowed : String → List String) (priority : Priority) (limit : Option Nat)
    (parallel parallel' : Bool) (g : Graph) :
    evaluate g (layerDependencies layering allowed priority limit parallel) =
      evaluate g (layerDependencies layering allowed priority limit parallel') := by
  rw [layerDependencies_eq, layerDependencies_eq, evaluate_compose, evaluate_compose, description,
    description]
  rfl

namespace Engine

variable {p : Policy} {s s' : Settings}

/-- The priority of an outcome is that of the rule. -/
lemma priority_evaluate {r : Rule Graph} (h : r ∈ rulesFor p s) (g : Graph) :
    (Rule.evaluate g r).priority = r.priority := by
  obtain ⟨_, -, hfinds⟩ := exists_finding h
  exact hfinds.priority_eq g

lemma mem_of_mem_selected {e : Engine} {only : List String} {r : Rule Graph}
    (h : r ∈ e.selected only) : r ∈ e.rules := (List.mem_filter.mp h).1

/-- Of rules with the same names, those with the same names are selected. -/
lemma rel_selected {R : Rule Graph → Rule Graph → Prop} (hname : ∀ r r', R r r' → r'.name = r.name)
    {e e' : Engine} (h : List.Forall₂ R e.rules e'.rules) (only : List String) :
    List.Forall₂ R (e.selected only) (e'.selected only) := by
  refine List.rel_filter ?_ h
  intro r r' hr
  show (only.isEmpty || only.contains r.name) = true ↔
    (only.isEmpty || only.contains r'.name) = true
  rw [hname r r' hr]

/-- A maximum that keeps a violation does not change how rules judge. -/
lemma judgesLike_selected (p : Policy) (hmaximum : s.maxViolations ≠ some 0) (only : List String) :
    List.Forall₂ Rule.JudgesLike ((assembled p (s.withMaximum none)).selected only)
      ((assembled p s).selected only) := by
  cases hm : s.maxViolations with
  | none =>
      have hs : s.withMaximum none = s := by rw [Settings.withMaximum, ← hm]
      rw [hs]
      exact List.forall₂_same.mpr fun r _ => .refl r
  | some m =>
      have hs : s.withMaximum (some m) = s := by rw [Settings.withMaximum, ← hm]
      have hcaps := forall₂_capsAt_selected p s m only
      rw [hs] at hcaps
      have hm0 : m ≠ 0 := by
        rintro rfl
        exact hmaximum hm
      exact hcaps.imp fun r r' h => ⟨h.name_eq, fun g => (h.cutAt g).countsLike hm0⟩

/-- Settings that say the same about single rules and keep as many violations make rules that judge
alike. -/
lemma judgesLike_selected_of_rules_eq (p : Policy) (hrules : s'.rules = s.rules)
    (only : List String) :
    List.Forall₂ Rule.JudgesLike ((assembled p (s.withMaximum none)).selected only)
      ((assembled p (s'.withMaximum none)).selected only) := by
  have hget : ∀ rule, s'.rules.get? rule = s.rules.get? rule := fun rule => by rw [hrules]
  have henabled : ∀ rule, s'.isEnabled rule = s.isEnabled rule :=
    fun rule => Settings.isEnabled_congr (hget rule)
  have hpriority : ∀ rule own, priorityFor s' rule own = priorityFor s rule own :=
    fun rule => priorityFor_congr (hget rule)
  refine rel_selected (fun _ _ h => h.name_eq) (List.rel_append (forall₂_toList ?_) ?_) only
  · rw [layerRule?_withMaximum, layerRule?_withMaximum, henabled, hpriority]
    split
    · refine .some ⟨rfl, fun g => ?_⟩
      have hparallel := Rule.evaluate_layerDependencies_parallel (.ofLayers p.layers) p.allowed
        (priorityFor s Rule.layerDependenciesName none) none s.parallel s'.parallel g
      exact ⟨congrArg Outcome.priority hparallel.symm, congrArg Outcome.hasViolation hparallel.symm⟩
    · exact .none
  · have hconstraint : constraintRule? p (s'.withMaximum none) =
        constraintRule? p (s.withMaximum none) := funext fun c => by
      simp only [constraintRule?_withMaximum, henabled, hpriority]
    rw [hconstraint]
    exact List.forall₂_same.mpr fun r _ => .refl r

end Engine

/-! ### Verdicts -/

lemma Verdict.passes_eq_false_iff {v : Verdict} :
    v.passes = false ↔ ∃ o ∈ v.outcomes, v.threshold ≤ o.priority ∧ o.hasViolation = true := by
  rw [← Bool.not_eq_true, passes_iff]
  simp only [not_forall, not_not]
  exact ⟨fun ⟨o, ho, hv, ht⟩ => ⟨o, ho, ht, hv⟩, fun ⟨o, ho, ht, hv⟩ => ⟨o, ho, hv, ht⟩⟩

/-- Outcomes that count alike make a check fail alike. -/
lemma Outcome.exists_failing_iff {os os' : List Outcome} (h : List.Forall₂ CountsLike os os')
    (threshold : Priority) :
    (∃ o ∈ os', threshold ≤ o.priority ∧ o.hasViolation = true) ↔
      ∃ o ∈ os, threshold ≤ o.priority ∧ o.hasViolation = true := by
  induction h with
  | nil => rfl
  | cons ho _ ih =>
      rw [List.exists_mem_cons_iff, List.exists_mem_cons_iff, ih, ho.priority_eq,
        ho.hasViolation_eq]

lemma Outcome.passes_eq {os os' : List Outcome} (h : List.Forall₂ CountsLike os os')
    (threshold : Priority) : Verdict.passes ⟨os', threshold⟩ = Verdict.passes ⟨os, threshold⟩ := by
  rw [Bool.eq_iff_iff, ← not_iff_not, Bool.not_eq_true, Bool.not_eq_true,
    Verdict.passes_eq_false_iff, Verdict.passes_eq_false_iff]
  exact exists_failing_iff h threshold

namespace Engine

variable {s s' : Settings}

/-- A verdict turns on the rules without a maximum, and on what the settings say about single
rules. -/
lemma passes_eq_false_iff (p : Policy) (rest : Graph) (only : List String)
    (hmaximum : s'.maxViolations ≠ some 0) (hrules : s'.rules = s.rules) :
    Verdict.passes ⟨((assembled p s').selected only).map (Rule.evaluate rest), s'.threshold⟩ =
        false ↔
      ∃ r ∈ (assembled p (s.withMaximum none)).selected only,
        s'.threshold ≤ r.priority ∧ (Rule.evaluate rest r).hasViolation = true := by
  have hcounts : ∀ {rules rules' : List (Rule Graph)}, List.Forall₂ Rule.JudgesLike rules rules' →
      List.Forall₂ Outcome.CountsLike (rules.map (Rule.evaluate rest))
        (rules'.map (Rule.evaluate rest)) :=
    fun h => List.rel_map (fun _ _ hr => hr.countsLike rest) h
  rw [Outcome.passes_eq (hcounts (judgesLike_selected p hmaximum only)),
    Outcome.passes_eq (hcounts (judgesLike_selected_of_rules_eq p hrules only)),
    Verdict.passes_eq_false_iff]
  simp only [List.mem_map, exists_exists_and_eq_and]
  refine exists_congr fun r => and_congr_right fun hr => ?_
  rw [priority_evaluate (mem_of_mem_selected hr)]

end Engine

end Strata
