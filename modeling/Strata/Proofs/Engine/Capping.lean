import Mathlib.Data.List.Forall2
import Strata.Payload.Plain
import Strata.Proofs.Engine.Outcomes
import Strata.Proofs.Rule.Constraints
import Strata.Proofs.Rule.LayerDependencies

/-!
A maximum of violations. The rules that constraints make count while they record, the rule about
layers counts once its parts are merged. Main statement: `evaluateOnly_withMaximum`, all the same
each outcome with a maximum is the one without, cut once and with a note if that took something
away.
-/

namespace Strata

lemma limited_some_eq_take_min {α : Type} (m : Nat) (l : List α) :
    limited (some m) l = l.take (min m l.length) := limited_eq_take (some m) l

lemma forall₂_toList {α β : Type} {R : α → β → Prop} {a : Option α} {b : Option β}
    (h : Option.Rel R a b) : List.Forall₂ R a.toList b.toList := by
  cases h with
  | some h => exact .cons h .nil
  | none => exact .nil

section

variable [Kinds]

/-! ### Outcomes that are cut -/

/-- An outcome is another one that was cut to the first `m` violations. -/
structure Outcome.CutAt (m : Nat) (full short : Outcome) : Prop where
  rule_eq : short.rule = full.rule
  priority_eq : short.priority = full.priority
  violations_eq : short.violations = full.violations.take (min m full.count)
  note_eq : short.note =
    if full.count ≤ m then none
    else some (toString full.count ++ " times, only the first " ++ toString m ++ " are listed")

/-- The limit of a recorder cuts what it would keep without. -/
lemma Recorder.cutAt {γ : Type} (r : Recorder γ) (m : Nat) (input : γ) :
    Outcome.CutAt m (({ r with limit := none } : Recorder γ).toCheck.evaluate input)
      (({ r with limit := some m } : Recorder γ).toCheck.evaluate input) where
  rule_eq := rfl
  priority_eq := rfl
  violations_eq := by
    rw [Outcome.count, violations_evaluate, violations_evaluate, limited_none,
      limited_some_eq_take_min]
  note_eq := by
    rw [Outcome.count, violations_evaluate, note_evaluate, EventLog.limitNote_some, limited_none,
      List.countP_eq_length_filter]

/-- The limit of a composed rule cuts the merged outcome, if the parts have nothing to note. -/
lemma Rule.cutAt_compose {γ : Type} {input : γ} {c : Composition} {parts : List (Rule γ)} (m : Nat)
    (h : ∀ r ∈ parts, (evaluate input r).OnlyViolations)
    (hnote : ∀ r ∈ parts, (evaluate input r).note = none) :
    Outcome.CutAt m (evaluate input (.compose { c with limit := none } parts))
      (evaluate input (.compose { c with limit := some m } parts)) where
  rule_eq := by
    rw [rule_evaluate_compose, rule_evaluate_compose, description, description]
  priority_eq := by rw [priority_evaluate_compose, priority_evaluate_compose]
  violations_eq := by
    rw [Outcome.count, violations_evaluate_compose h, violations_evaluate_compose h, limited_none,
      limited_some_eq_take_min]
  note_eq := by
    have hnone : (parts.findSome? fun r => (evaluate input r).note) = none :=
      List.findSome?_eq_none_iff.mpr hnote
    rw [Outcome.count, violations_evaluate_compose h, note_evaluate_compose h, hnone,
      EventLog.limitNote_some, limited_none, Option.none_or]

/-! ### Rules with a maximum and without -/

/-- Settings with another maximum of violations, or with none. -/
def Settings.withMaximum (s : Settings) (maximum : Option Nat) : Settings :=
  { s with maxViolations := maximum }

/-- A rule is another one with a maximum of violations: it has the same name, and each of its
outcomes is cut. -/
structure Rule.CapsAt (m : Nat) (full capped : Rule Graph) : Prop where
  name_eq : capped.name = full.name
  cutAt : ∀ g, Outcome.CutAt m (evaluate g full) (evaluate g capped)

/-- A rule that records its violations is capped by its limit. -/
lemma Recorder.capsAt (r : Recorder Graph) (m : Nat) :
    Rule.CapsAt m (.check ({ r with limit := none } : Recorder Graph).toCheck)
      (.check ({ r with limit := some m } : Recorder Graph).toCheck) where
  name_eq := rfl
  cutAt g := by
    rw [Rule.evaluate_check, Rule.evaluate_check]
    exact r.cutAt m g

namespace Engine

section Building

variable (p : Policy) (s : Settings)

/-- The maximum decides neither whether the rule about layers is built nor its parts. -/
lemma layerRule?_withMaximum (maximum : Option Nat) :
    layerRule? p (s.withMaximum maximum) =
      if s.isEnabled Rule.layerDependenciesName && !p.isEmpty then
        some (Rule.layerDependencies (.ofLayers p.layers) p.allowed
          (priorityFor s Rule.layerDependenciesName none) maximum s.parallel)
      else none := rfl

/-- The maximum does not decide which rules constraints make. -/
lemma constraintRule?_withMaximum (maximum : Option Nat) (c : Constraint) :
    constraintRule? p (s.withMaximum maximum) c =
      if c.kind = Constraint.noDependencyPattern ∧ s.isEnabled Rule.dependencyPatternName then
        some (Rule.dependencyPattern (.ofLayers p.layers) c
          (priorityFor s Rule.dependencyPatternName c.priority) maximum)
      else if c.kind = Constraint.namingRule ∧ s.isEnabled Rule.namingName then
        some (Rule.naming (.ofLayers p.layers) c (priorityFor s Rule.namingName c.priority) maximum)
      else none := rfl

variable (m : Nat)

/-- The rule about layers is cut after merging, for its parts have no limit. -/
lemma capsAt_layerRule? :
    Option.Rel (Rule.CapsAt m) (layerRule? p (s.withMaximum none))
      (layerRule? p (s.withMaximum (some m))) := by
  rw [layerRule?_withMaximum, layerRule?_withMaximum]
  by_cases h : s.isEnabled Rule.layerDependenciesName && !p.isEmpty
  · rw [if_pos h, if_pos h, Rule.layerDependencies_eq, Rule.layerDependencies_eq]
    refine .some ⟨rfl, fun g => ?_⟩
    exact Rule.cutAt_compose (c := Rule.layerComposition _ _ none _) m
      (fun _ hr => Rule.onlyViolations_of_mem_layerChecks hr g)
      (fun _ hr => Rule.note_of_mem_layerChecks hr g)
  · rw [if_neg h, if_neg h]
    exact .none

/-- The rule of a constraint is cut while it records. -/
lemma capsAt_constraintRule? (c : Constraint) :
    Option.Rel (Rule.CapsAt m) (constraintRule? p (s.withMaximum none) c)
      (constraintRule? p (s.withMaximum (some m)) c) := by
  rw [constraintRule?_withMaximum, constraintRule?_withMaximum]
  by_cases hpattern : c.kind = Constraint.noDependencyPattern ∧
      s.isEnabled Rule.dependencyPatternName
  · rw [if_pos hpattern, if_pos hpattern, Rule.dependencyPattern_eq, Rule.dependencyPattern_eq]
    exact .some ((Rule.dependencyPatternRecorder _ c _ none).capsAt m)
  rw [if_neg hpattern, if_neg hpattern]
  by_cases hnaming : c.kind = Constraint.namingRule ∧ s.isEnabled Rule.namingName
  · rw [if_pos hnaming, if_pos hnaming, Rule.naming_eq, Rule.naming_eq]
    exact .some ((Rule.namingRecorder _ c _ none).capsAt m)
  · rw [if_neg hnaming, if_neg hnaming]
    exact .none

/-- The same rules are built, each with the maximum. -/
lemma forall₂_capsAt_rulesFor :
    List.Forall₂ (Rule.CapsAt m) (rulesFor p (s.withMaximum none))
      (rulesFor p (s.withMaximum (some m))) := by
  refine List.rel_append (forall₂_toList (capsAt_layerRule? p s m)) ?_
  refine List.rel_filterMap (R := Eq) ?_ (List.forall₂_same.mpr fun _ _ => rfl)
  rintro c _ rfl
  exact capsAt_constraintRule? p s m c

/-- Rules of the same names are selected. -/
lemma forall₂_capsAt_selected (only : List String) :
    List.Forall₂ (Rule.CapsAt m) ((assembled p (s.withMaximum none)).selected only)
      ((assembled p (s.withMaximum (some m))).selected only) := by
  refine List.rel_filter ?_ (forall₂_capsAt_rulesFor p s m)
  intro r r' hr
  show (only.isEmpty || only.contains r.name) = true ↔
    (only.isEmpty || only.contains r'.name) = true
  rw [hr.name_eq]

end Building

/-- **A maximum cuts once**: an engine that is built with a maximum evaluates a graph if the one
without does, to as many outcomes, and each of them is the one without, cut to its first violations
and with a note exactly if there were more. With no names given that is so for all rules. -/
theorem evaluateOnly_withMaximum {p : Policy} {s : Settings} {m : Nat} {full : Engine} {g : Graph}
    {only : List String} {us : List Outcome} (hbuild : build p (s.withMaximum none) = .ok full)
    (hus : full.evaluateOnly g only = .ok us) :
    ∃ (capped : Engine) (cs : List Outcome), build p (s.withMaximum (some m)) = .ok capped ∧
      capped.evaluateOnly g only = .ok cs ∧ cs.length = us.length ∧
      ∀ i (hu : i < us.length) (hc : i < cs.length), Outcome.CutAt m us[i] cs[i] := by
  obtain ⟨hvalid, rfl⟩ := build_eq_ok_iff.mp hbuild
  obtain ⟨rest, hrest, rfl⟩ := evaluateOnly_eq_ok_iff.mp hus
  have hcut : List.Forall₂ (Outcome.CutAt m) _
      (((assembled p (s.withMaximum (some m))).selected only).map (Rule.evaluate rest)) :=
    List.rel_map (fun _ _ h => h.cutAt rest) (forall₂_capsAt_selected p s m only)
  rw [List.forall₂_iff_get] at hcut
  refine ⟨_, _, build_eq_ok_iff.mpr ⟨hvalid, rfl⟩,
    evaluateOnly_eq_ok_iff.mpr ⟨rest, hrest, rfl⟩, hcut.1.symm, ?_⟩
  exact fun i hu hc => hcut.2 i hu hc

end Engine

end

namespace Engine

/-- The shop has rules of all kinds, each with more than one violation. -/
theorem evaluateOnly_withMaximum_shop :
    let full := assembled .shop (Settings.standard.withMaximum none)
    let us := full.rules.map (Rule.evaluate .shop)
    build .shop (Settings.standard.withMaximum none) = .ok full ∧
      full.evaluateOnly .shop [] = .ok us ∧
      ∃ (capped : Engine) (cs : List Outcome),
        build .shop (Settings.standard.withMaximum (some 1)) = .ok capped ∧
        capped.evaluateOnly .shop [] = .ok cs ∧ cs.length = us.length ∧
        ∀ i (hu : i < us.length) (hc : i < cs.length), Outcome.CutAt 1 us[i] cs[i] := by
  intro full us
  have hbuild : build .shop (Settings.standard.withMaximum none) = .ok full :=
    build_eq_ok_iff.mpr ⟨Policy.problem?_eq_none_iff.mpr (by decide +kernel), rfl⟩
  have hus : full.evaluateOnly .shop [] = .ok us :=
    evaluateOnly_eq_ok_iff.mpr ⟨.shop, rfl, by simp [us, selected]⟩
  exact ⟨hbuild, hus, evaluateOnly_withMaximum hbuild hus⟩

end Engine

end Strata
