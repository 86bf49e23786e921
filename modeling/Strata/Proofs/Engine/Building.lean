import Strata.Payload.Plain
import Strata.Proofs.Engine.Judging
import Strata.Proofs.Policy.Checks

/-!
Which rules an engine is built of. Each rule is made from a basis, the layers of a policy or one of
its constraints, and there is one for each basis whose rule is enabled, in the order of the policy
(`rulesFor_eq_filterMap`). What settings say about one rule decides about the rules of that name and
about no others (`filter_rulesFor_eq`). Main statement: `evaluate_bases`, there is one outcome for
each such basis, and which priority it has.
-/

namespace Strata

lemma forall₂_filter_filterMap {α β : Type} {R : α → β → Prop} {keep : α → Bool} {f : α → Option β}
    (h : ∀ a, (keep a = false ∧ f a = none) ∨ (keep a = true ∧ ∃ b, f a = some b ∧ R a b))
    (l : List α) : List.Forall₂ R (l.filter keep) (l.filterMap f) := by
  induction l with
  | nil => exact .nil
  | cons a l ih =>
      rcases h a with ⟨hkeep, hf⟩ | ⟨hkeep, b, hf, hb⟩
      · rwa [List.filter_cons_of_neg (by simp [hkeep]), List.filterMap_cons_none hf]
      · rw [List.filter_cons_of_pos hkeep, List.filterMap_cons_some hf]
        exact .cons hb ih

/-! ### Settings that agree -/

/-- Settings that say the same, but for rules whose names are not among some names. -/
structure Settings.AgreeOn (names : String → Bool) (s s' : Settings) : Prop where
  maxViolations_eq : s'.maxViolations = s.maxViolations
  parallel_eq : s'.parallel = s.parallel
  get?_eq : ∀ name, names name = true → s'.rules.get? name = s.rules.get? name

/-- Settings that do without the rule about targets, and by which the rule about names matters
less. -/
def Settings.lenient : Settings :=
  { Settings.standard with
    rules := ⟨[(Rule.dependencyPatternName, ⟨some false, some .high⟩),
      (Rule.namingName, ⟨none, some .low⟩)], by decide⟩ }

/-- Settings that do without the rule about targets. -/
def Settings.focused : Settings :=
  { Settings.standard with
    rules := ⟨[(Rule.dependencyPatternName, ⟨some false, some .high⟩)], by decide⟩ }

lemma Settings.agreeOn_lenient_focused : lenient.AgreeOn (· != Rule.namingName) focused := by
  refine ⟨rfl, rfl, fun name hname => ?_⟩
  have hne : (name == Rule.namingName) = false := by simpa using hname
  simp [lenient, focused, Dictionary.get?, List.lookup_cons, hne]

section

variable [Kinds]

/-! ### What rules are made from -/

/-- What a rule is made from. -/
inductive Basis where
  | layers
  | constraint (c : Constraint)

namespace Basis

/-- The name of the rule that is made from a basis, if its kind is known. -/
def ruleName? : Basis → Option String
  | layers => some Rule.layerDependenciesName
  | constraint c =>
    if c.kind = Constraint.noDependencyPattern then some Rule.dependencyPatternName
    else if c.kind = Constraint.namingRule then some Rule.namingName
    else none

/-- The priority that the basis itself asks for. -/
def own? : Basis → Option Priority
  | layers => none
  | constraint c => c.priority

/-- Whether settings leave its rule enabled. -/
def isEnabled (s : Settings) (b : Basis) : Bool := b.ruleName?.any s.isEnabled

/-- The rule that a policy makes from a basis. -/
def rule (p : Policy) (priority : Priority) (limit : Option Nat) (parallel : Bool) :
    Basis → Rule Graph
  | layers => Rule.layerDependencies p.layering p.allowed priority limit parallel
  | constraint c =>
    if c.kind = Constraint.noDependencyPattern then
      Rule.dependencyPattern p.layering c priority limit
    else Rule.naming p.layering c priority limit

section Rule

variable {p : Policy} {priority : Priority} {limit : Option Nat} {parallel : Bool} {b : Basis}

lemma name_rule {name : String} (h : b.ruleName? = some name) :
    (b.rule p priority limit parallel).name = name := by
  cases b with
  | layers => exact Option.some.inj h
  | constraint c =>
      rw [ruleName?] at h
      rw [rule]
      split at h
      · next hkind =>
          rw [if_pos hkind]
          exact Option.some.inj h
      · next hkind =>
          rw [if_neg hkind]
          split at h
          · exact Option.some.inj h
          · cases h

lemma priority_evaluate_rule (g : Graph) :
    (Rule.evaluate g (b.rule p priority limit parallel)).priority = priority := by
  cases b with
  | layers => exact Rule.priority_evaluate_compose
  | constraint c =>
      rw [rule]
      split
      · rw [Rule.dependencyPattern_eq, Rule.evaluate_check]
        rfl
      · rw [Rule.naming_eq, Rule.evaluate_check]
        rfl

/-- An outcome is told under the description of the rule. -/
lemma rule_evaluate_rule (g : Graph) :
    (Rule.evaluate g (b.rule p priority limit parallel)).rule =
      (b.rule p priority limit parallel).description := by
  cases b with
  | layers => exact Rule.rule_evaluate_compose
  | constraint c =>
      rw [rule]
      split
      · rw [Rule.dependencyPattern_eq, Rule.evaluate_check, Rule.description]
        rfl
      · rw [Rule.naming_eq, Rule.evaluate_check, Rule.description]
        rfl

end Rule

end Basis

namespace Policy

/-- What the rules of a policy are made from, in order: the layers, if there are any, and the
constraints. -/
def bases (p : Policy) : List Basis :=
  (if p.layers = [] then [] else [.layers]) ++ p.constraints.map .constraint

/-- The bases whose rules settings leave enabled. -/
def enabledBases (p : Policy) (s : Settings) : List Basis := p.bases.filter (Basis.isEnabled s)

end Policy

namespace Engine

/-! ### One rule for each basis -/

/-- The rule that a policy and settings make from a basis, if it is enabled. -/
def ruleFrom? (p : Policy) (s : Settings) (b : Basis) : Option (Rule Graph) :=
  (b.ruleName?.filter s.isEnabled).map fun name =>
    b.rule p (priorityFor s name b.own?) s.maxViolations s.parallel

variable {p : Policy} {s s' : Settings}

lemma constraintRule?_eq (c : Constraint) :
    constraintRule? p s c = ruleFrom? p s (.constraint c) := by
  rw [constraintRule?, ruleFrom?, Basis.ruleName?]
  by_cases hpattern : c.kind = Constraint.noDependencyPattern
  · have hnaming : c.kind ≠ Constraint.namingRule := by
      rw [hpattern]
      exact Policy.noDependencyPattern_ne_namingRule
    have hrule : ∀ priority limit parallel, Basis.rule p priority limit parallel (.constraint c) =
        Rule.dependencyPattern p.layering c priority limit := fun _ _ _ => if_pos hpattern
    rw [if_pos hpattern, Option.filter_some]
    by_cases henabled : s.isEnabled Rule.dependencyPatternName
    · rw [if_pos ⟨hpattern, henabled⟩, if_pos henabled, Option.map_some, hrule]
      rfl
    · rw [if_neg fun h => henabled h.2, if_neg fun h => hnaming h.1, if_neg henabled]
      rfl
  · have hrule : ∀ priority limit parallel, Basis.rule p priority limit parallel (.constraint c) =
        Rule.naming p.layering c priority limit := fun _ _ _ => if_neg hpattern
    rw [if_neg hpattern, if_neg fun h => hpattern h.1]
    by_cases hnaming : c.kind = Constraint.namingRule
    · rw [if_pos hnaming, Option.filter_some]
      by_cases henabled : s.isEnabled Rule.namingName
      · rw [if_pos ⟨hnaming, henabled⟩, if_pos henabled, Option.map_some, hrule]
        rfl
      · rw [if_neg fun h => henabled h.2, if_neg henabled]
        rfl
    · rw [if_neg hnaming, if_neg fun h => hnaming h.1]
      rfl

lemma rulesFor_eq_filterMap (p : Policy) (s : Settings) :
    rulesFor p s = p.bases.filterMap (ruleFrom? p s) := by
  have hlayers : (layerRule? p s).toList =
      (if p.layers = [] then [] else [Basis.layers]).filterMap (ruleFrom? p s) := by
    rw [layerRule?, Policy.isEmpty]
    by_cases hlayers : p.layers = []
    · simp [hlayers]
    · by_cases henabled : s.isEnabled Rule.layerDependenciesName
      · simp [hlayers, henabled, ruleFrom?, Basis.ruleName?, Basis.rule]
        rfl
      · simp [hlayers, henabled, ruleFrom?, Basis.ruleName?]
  have hconstraints : constraintRule? p s = ruleFrom? p s ∘ Basis.constraint :=
    funext constraintRule?_eq
  rw [rulesFor, Policy.bases, List.filterMap_append, List.filterMap_map, hlayers, hconstraints]

/-- A rule is what a policy and settings make from a basis. -/
structure Gives (p : Policy) (s : Settings) (b : Basis) (r : Rule Graph) : Prop where
  name_eq : b.ruleName? = some r.name
  eq_rule : r = b.rule p (priorityFor s r.name b.own?) s.maxViolations s.parallel

/-- A basis gives a rule if that is enabled, and no rule otherwise. -/
lemma ruleFrom?_cases (p : Policy) (s : Settings) (b : Basis) :
    (b.isEnabled s = false ∧ ruleFrom? p s b = none) ∨
      (b.isEnabled s = true ∧ ∃ r, ruleFrom? p s b = some r ∧ Gives p s b r) := by
  cases hname : b.ruleName? with
  | none => exact .inl ⟨by rw [Basis.isEnabled, hname]; rfl, by rw [ruleFrom?, hname]; rfl⟩
  | some name =>
      rw [Basis.isEnabled, ruleFrom?, hname, Option.any_some, Option.filter_some]
      by_cases henabled : s.isEnabled name = true
      · refine .inr ⟨henabled, _, by rw [if_pos henabled]; rfl, ?_, ?_⟩
        · rw [Basis.name_rule hname, hname]
        · rw [Basis.name_rule hname]
      · exact .inl ⟨by simpa using henabled, by rw [if_neg henabled]; rfl⟩

/-- The rules of an engine, one for each basis whose rule is enabled and in the same order. -/
lemma forall₂_gives_rulesFor (p : Policy) (s : Settings) :
    List.Forall₂ (Gives p s) (p.enabledBases s) (rulesFor p s) := by
  rw [rulesFor_eq_filterMap]
  exact forall₂_filter_filterMap (ruleFrom?_cases p s) p.bases

/-- A rule that is built is enabled under its name. -/
lemma isEnabled_of_mem_rulesFor {r : Rule Graph} (h : r ∈ rulesFor p s) :
    s.isEnabled r.name = true := by
  rw [rulesFor_eq_filterMap] at h
  obtain ⟨b, -, hb⟩ := List.mem_filterMap.mp h
  rcases ruleFrom?_cases p s b with ⟨-, hnone⟩ | ⟨henabled, r', hr', hgives⟩
  · rw [hnone] at hb
    cases hb
  · obtain rfl : r' = r := Option.some.inj (hr'.symm.trans hb)
    rwa [Basis.isEnabled, hgives.name_eq] at henabled

/-! ### What settings say about single rules -/

variable {names : String → Bool}

/-- From a basis the same rule is made, unless it is one that the settings say different things
about. -/
lemma filter_name_ruleFrom? (h : s.AgreeOn names s') (b : Basis) :
    (ruleFrom? p s' b).filter (names ·.name) = (ruleFrom? p s b).filter (names ·.name) := by
  rcases hname : b.ruleName? with _ | name
  · rw [ruleFrom?, ruleFrom?, hname]
    rfl
  · by_cases hkept : names name = true
    · have henabled : s'.isEnabled name = s.isEnabled name :=
        Settings.isEnabled_congr (h.get?_eq name hkept)
      have hpriority : priorityFor s' name b.own? = priorityFor s name b.own? :=
        priorityFor_congr (h.get?_eq name hkept) b.own?
      simp only [ruleFrom?, hname, Option.filter_some, henabled, h.maxViolations_eq, h.parallel_eq]
      split <;> simp only [Option.map_some, Option.map_none, hpriority]
    · -- whatever is made has a name that is not asked for
      have hnone : ∀ s : Settings, (ruleFrom? p s b).filter (names ·.name) = none := by
        intro s
        rw [Option.filter_eq_none_iff]
        intro r hr
        rcases ruleFrom?_cases p s b with ⟨-, hnone⟩ | ⟨-, r', hr', hgives⟩
        · rw [hnone] at hr
          cases hr
        · obtain rfl : r' = r := Option.some.inj (hr'.symm.trans hr)
          rwa [← Option.some.inj (hname.symm.trans hgives.name_eq)]
      rw [hnone, hnone]

/-- **Settings about one rule do not reach others**: of the names that two settings agree on, the
same rules are built, in the same order. -/
lemma filter_rulesFor_eq (p : Policy) (h : s.AgreeOn names s') :
    (rulesFor p s').filter (names ·.name) = (rulesFor p s).filter (names ·.name) := by
  rw [rulesFor_eq_filterMap, rulesFor_eq_filterMap, List.filter_filterMap, List.filter_filterMap]
  exact List.filterMap_congr fun b _ => filter_name_ruleFrom? h b

/-! ### Evaluation -/

/-- An outcome is that of a rule which settings make from a basis, for what is left of a graph. -/
structure IsAnswer (p : Policy) (s : Settings) (rest : Graph) (b : Basis) (r : Rule Graph)
    (o : Outcome) : Prop where
  name_eq : b.ruleName? = some r.name
  eq_rule : r = b.rule p o.priority s.maxViolations s.parallel
  eq_evaluate : o = Rule.evaluate rest r
  rule_eq : o.rule = r.description
  /-- What is set for the name of the rule wins over what the basis asks for. -/
  priority_of_set : ∀ priority ∈ s.priorityOf? r.name, o.priority = priority
  priority_of_own : s.priorityOf? r.name = none → ∀ priority ∈ b.own?, o.priority = priority
  priority_of_none : s.priorityOf? r.name = none → b.own? = none → o.priority = .medium

lemma Gives.isAnswer {b : Basis} {r : Rule Graph} (h : Gives p s b r) (rest : Graph) :
    IsAnswer p s rest b r (Rule.evaluate rest r) := by
  have hpriority : (Rule.evaluate rest r).priority = priorityFor s r.name b.own? := by
    rw [h.eq_rule, Basis.priority_evaluate_rule, ← h.eq_rule]
  constructor
  · exact h.name_eq
  · rw [hpriority]
    exact h.eq_rule
  · rfl
  · rw [h.eq_rule]
    exact Basis.rule_evaluate_rule rest
  · intro priority hset
    rw [hpriority, priorityFor, hset]
    rfl
  · intro hset priority hown
    rw [hpriority, priorityFor, hset, hown]
    rfl
  · intro hset hown
    rw [hpriority, priorityFor, hset, hown]
    rfl

/-- Rules with their outcomes, but for those of one name. -/
lemma filter_zip_evaluate (rest : Graph) (name : String) (rules : List (Rule Graph)) :
    (rules.zip (rules.map (Rule.evaluate rest))).filter (·.1.name != name) =
      (rules.filter (·.name != name)).map fun r => (r, Rule.evaluate rest r) := by
  have hzip : rules.zip (rules.map (Rule.evaluate rest)) =
      rules.map fun r => (r, Rule.evaluate rest r) := by
    simpa using List.zip_map' (f := id) (g := Rule.evaluate rest) (l := rules)
  rw [hzip, List.filter_map]
  rfl

/-- **Which outcomes there are.** An engine evaluates a graph to one outcome for each basis whose
rule is enabled, in the order of the policy: that of the rule made from it, under the description of
the rule, with the priority that is set for the name of the rule, or else the one of the basis, or
else medium. With settings that say something else about rules of one name, the other rules and
their outcomes are the same, in the same order. -/
theorem evaluate_bases {p : Policy} {s : Settings} {e : Engine} {g : Graph} {os : List Outcome}
    (hbuild : build p s = .ok e) (hos : e.evaluate g = .ok os) :
    (∃ rest, g.withoutMatching p.exclude = .ok rest ∧
      e.rules.length = (p.enabledBases s).length ∧ os.length = (p.enabledBases s).length ∧
      ∀ i (hb : i < (p.enabledBases s).length) (hr : i < e.rules.length) (ho : i < os.length),
        IsAnswer p s rest (p.enabledBases s)[i] e.rules[i] os[i]) ∧
    ∀ (name : String) (s' : Settings), s.AgreeOn (· != name) s' →
      ∃ e' os', build p s' = .ok e' ∧ e'.evaluate g = .ok os' ∧
        (e'.rules.zip os').filter (·.1.name != name) =
          (e.rules.zip os).filter (·.1.name != name) := by
  obtain ⟨hvalid, rfl⟩ := build_eq_ok_iff.mp hbuild
  obtain ⟨rest, hrest, hall⟩ := evaluateOnly_eq_ok_iff.mp hos
  rw [selected_nil] at hall
  subst hall
  have hgives := forall₂_gives_rulesFor p s
  refine ⟨⟨rest, hrest, hgives.length_eq.symm, ?_, fun i hb hr ho => ?_⟩, fun name s' hs' => ?_⟩
  · rw [List.length_map]
    exact hgives.length_eq.symm
  · rw [List.getElem_map]
    exact ((List.forall₂_iff_get.mp hgives).2 i hb hr).isAnswer rest
  · refine ⟨_, _, build_eq_ok_iff.mpr ⟨hvalid, rfl⟩,
      evaluateOnly_eq_ok_iff.mpr ⟨rest, hrest, rfl⟩, ?_⟩
    rw [selected_nil, filter_zip_evaluate, filter_zip_evaluate]
    exact congrArg (List.map _) (filter_rulesFor_eq p hs')

end Engine

end

namespace Engine

/-- Two of the three rules of a shop are evaluated. The first is the same whatever is said about the
second. -/
theorem evaluate_bases_shop :
    let e := assembled .shop .lenient
    let os := e.rules.map (Rule.evaluate .shop)
    build .shop .lenient = .ok e ∧ e.evaluate .shop = .ok os ∧
      Settings.lenient.AgreeOn (· != Rule.namingName) .focused ∧
      (∃ first second, os = [first, second] ∧ first.priority = .medium ∧ second.priority = .low) ∧
      ∃ e' os', build .shop .focused = .ok e' ∧ e'.evaluate .shop = .ok os' ∧
        (e'.rules.zip os').filter (·.1.name != Rule.namingName) =
          (e.rules.zip os).filter (·.1.name != Rule.namingName) := by
  intro e os
  have hbuild : build .shop .lenient = .ok e := build_shop
  have hos : e.evaluate .shop = .ok os := evaluateOnly_shop
  obtain ⟨⟨rest, -, -, hlength, hanswer⟩, hframe⟩ := evaluate_bases hbuild hos
  have hbases : (Policy.shop.enabledBases .lenient).length = 2 := by decide
  refine ⟨hbuild, hos, Settings.agreeOn_lenient_focused, ?_,
    hframe _ _ Settings.agreeOn_lenient_focused⟩
  rw [hbases] at hlength
  have h0 : 0 < os.length := by omega
  have h1 : 1 < os.length := by omega
  refine ⟨os[0], os[1], ?_, ?_, ?_⟩
  · exact List.ext_getElem hlength fun i _ hi => by
      match i, hi with
      | 0, _ => rfl
      | 1, _ => rfl
  · exact (hanswer 0 (by decide) (by decide) h0).priority_of_none rfl rfl
  · exact (hanswer 1 (by decide) (by decide) h1).priority_of_set .low rfl

end Engine

end Strata
