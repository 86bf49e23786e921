import Mathlib.Data.List.Basic
import Strata.Payload.Plain
import Strata.Proofs.Layering.Longest
import Strata.Proofs.Policy.Sense
import Strata.Proofs.Rule.Composition
import Strata.Proofs.Rule.Recorder
import Strata.Rule.LayerDependencies

/-!
What the rule about layers reports. Each layer has a check of its own that goes over all
dependencies of the graph, so a dependency could be told by no check or by two.

* `violations_layerDependencies`: the violations are the dependencies that the policy forbids to
  the layers, layer by layer and in the order of the graph. No others are told, and if every layer
  has a name of its own, each of these is told once.
-/

namespace Strata

/-! ### Dependencies that a policy forbids -/

namespace Policy

/-- The layering that the layers of a policy define. -/
def layering (p : Policy) : Layering := .ofLayers p.layers

/-- A dependency goes from a layer to another one on which it may not depend. -/
def ForbidsTo (p : Policy) (layer : String) (d : Dependency) : Prop :=
  p.layering.layerOf? d.origin = some layer ∧
    ∃ target ∈ p.layering.layerOf? d.target, target ≠ layer ∧ target ∉ p.allowed layer

instance (p : Policy) (layer : String) : DecidablePred (p.ForbidsTo layer) := fun _ =>
  inferInstanceAs (Decidable (_ ∧ _))

/-- A dependency goes from some layer to another one on which it may not depend. -/
def Forbids (p : Policy) (d : Dependency) : Prop :=
  ∃ layer ∈ p.layering.layerOf? d.origin, ∃ target ∈ p.layering.layerOf? d.target,
    target ≠ layer ∧ target ∉ p.allowed layer

instance (p : Policy) : DecidablePred p.Forbids := fun d =>
  inferInstanceAs (Decidable (∃ layer ∈ p.layering.layerOf? d.origin, _))

lemma forbids_iff {p : Policy} {d : Dependency} : p.Forbids d ↔ ∃ layer, p.ForbidsTo layer d :=
  Iff.rfl

end Policy

/-- An element belongs to layers that are defined. -/
lemma Layering.mem_of_layerOf?_ofLayers {ls : List Layer} {name layer : String}
    (h : (ofLayers ls).layerOf? name = some layer) : layer ∈ ls.map Layer.name := by
  obtain ⟨_, -, i, -, rfl⟩ := layerOf?_ofLayers_eq_some_iff.mp h
  exact List.mem_map_of_mem (List.getElem_mem i.isLt)

/-! ### The check of one layer -/

section

variable [Kinds]

/-- The violation that tells a dependency. -/
def Dependency.violation (d : Dependency) : Event := .single (.dependency d) false d.description

namespace Rule

/-- The recorder of a layer: the dependencies of its elements, each satisfied or not. -/
def layerRecorder (layering : Layering) (layer : String) (allowed : List String)
    (priority : Priority) : Recorder Graph where
  name := layerDependenciesName
  description :=
    "Layer '" ++ layer ++ "' should " ++ (onlyDependOn layering layer allowed).description
  priority
  limit := none
  events g := (g.dependencies.filter fun d => layering.isIn d.origin layer).map fun d =>
    .single (.dependency d)
      ((layering.layerOf? d.target).all fun t => t == layer || allowed.contains t) d.description
  progress log :=
    [.debug ("Layer '" ++ layer ++ "': " ++ toString log.size ++ " dependencies checked")]

lemma layerCheck_eq (layering : Layering) (layer : String) (allowed : List String)
    (priority : Priority) :
    layerCheck layering layer allowed priority =
      (layerRecorder layering layer allowed priority).toCheck :=
  (layerRecorder layering layer allowed priority).ofLog_eq_toCheck fun _ =>
    Condition.Records.checkAll_map (Condition.records_each _ _ _ _) _ _

lemma violations_layerCheck (p : Policy) (layer : String) (priority : Priority) (g : Graph) :
    ((layerCheck p.layering layer (p.allowed layer) priority).evaluate g).violations =
      (g.dependencies.filter (p.ForbidsTo layer)).map Dependency.violation := by
  rw [layerCheck_eq, Recorder.violations_evaluate]
  simp only [layerRecorder, limited_none, Condition.filter_isViolation_map_single,
    List.filter_filter]
  refine congrArg (List.map Dependency.violation) (List.filter_congr fun d _ => ?_)
  rw [Bool.eq_iff_iff, Bool.and_eq_true, decide_eq_true_iff, Policy.ForbidsTo, and_comm]
  refine and_congr (by simp [Layering.isIn]) ?_
  cases h : p.layering.layerOf? d.target <;> simp

/-- The checks of the layers of a layering. -/
def layerChecks (layering : Layering) (allowed : String → List String) (priority : Priority) :
    List (Rule Graph) :=
  layering.layers.map fun layer => .check (layerCheck layering layer (allowed layer) priority)

/-- What is said of the rule about layers beside its checks. -/
def layerComposition (layering : Layering) (priority : Priority) (limit : Option Nat)
    (parallel : Bool) : Composition where
  name := layerDependenciesName
  described := some ("Layered architecture consisting of layers " ++ Text.bracketed layering.layers)
  priority
  limit
  parallel

lemma layerDependencies_eq (layering : Layering) (allowed : String → List String)
    (priority : Priority) (limit : Option Nat) (parallel : Bool) :
    layerDependencies layering allowed priority limit parallel =
      .compose (layerComposition layering priority limit parallel)
        (layerChecks layering allowed priority) := rfl

variable {layering : Layering} {allowed : String → List String} {priority : Priority}
  {r : Rule Graph}

lemma exists_recorder_of_mem_layerChecks (h : r ∈ layerChecks layering allowed priority) :
    ∃ recorder : Recorder Graph, recorder.limit = none ∧ r = .check recorder.toCheck := by
  obtain ⟨layer, _, rfl⟩ := List.mem_map.mp h
  exact ⟨layerRecorder layering layer (allowed layer) priority, rfl,
    congrArg Rule.check (layerCheck_eq layering layer (allowed layer) priority)⟩

lemma onlyViolations_of_mem_layerChecks (h : r ∈ layerChecks layering allowed priority)
    (g : Graph) : (evaluate g r).OnlyViolations := by
  obtain ⟨recorder, _, rfl⟩ := exists_recorder_of_mem_layerChecks h
  rw [evaluate_check]
  exact recorder.onlyViolations_evaluate g

/-- The check of a layer keeps all violations and has nothing to note. -/
lemma note_of_mem_layerChecks (h : r ∈ layerChecks layering allowed priority) (g : Graph) :
    (evaluate g r).note = none := by
  obtain ⟨recorder, hlimit, rfl⟩ := exists_recorder_of_mem_layerChecks h
  rw [evaluate_check, recorder.note_evaluate, hlimit]
  rfl

end Rule

/-! ### A shop -/

/-- A shop whose store is a layer inside the package of another one. -/
def Policy.shop : Policy where
  graphPath := none
  exclude := []
  layers := [⟨"domain", ["shop.domain"]⟩, ⟨"app", ["shop.app"]⟩, ⟨"store", ["shop.app.store"]⟩]
  dependencies := ⟨[("store", ["domain"]), ("app", ["domain", "store"]), ("domain", [])], by decide⟩
  constraints :=
    [{ Constraint.blank with kind := Constraint.noDependencyPattern, pattern := "sql" },
     { Constraint.blank with kind := Constraint.namingRule, targetMatches := "Order",
                             nameMustMatch := "Cart", inLayers := ["app", "store"] }]

/-- Dependencies of a shop: the first one is there twice, and the last one has no layer. -/
def Graph.shop : Graph where
  elements := [⟨"shop.app.Basket", .classType⟩, ⟨"shop.app.store.Rows", .classType⟩]
  dependencies :=
    [⟨"shop.domain.Order", "shop.app.Basket", .fieldType, none, none, none⟩,
     ⟨"shop.domain.Order", "shop.app.Basket", .fieldType, none, none, none⟩,
     ⟨"shop.app.Basket", "shop.domain.Order", .methodCall, none, none, none⟩,
     ⟨"shop.app.store.Rows", "shop.app.Basket", .returnType, none, none, none⟩,
     ⟨"shop.app.store.Rows", "java.sql.Row", .otherUse, none, none, none⟩,
     ⟨"shop.app.store.Rows", "java.sql.Result", .parameterType, none, none, none⟩,
     ⟨"shop.app.store.Rows", "shop.domain.Order", .parameterType, none, none, none⟩,
     ⟨"shop.domain.Order", "shop.app.store.Rows", .otherUse, none, none, none⟩,
     ⟨"tools.Dump", "shop.app.store.Rows", .otherUse, none, none, none⟩]

/-! ### The checks of all layers -/

omit [Kinds] in
/-- Items that are gathered by distinct keys, of which none has two: those with a key are there as
often as before. -/
lemma flatMap_filter_perm {α κ : Type} {holds : κ → α → Prop} [∀ k, DecidablePred (holds k)]
    (hunique : ∀ k k' a, holds k a → holds k' a → k = k') {keys : List κ} (hkeys : keys.Nodup)
    (items : List α) :
    (keys.flatMap fun k => items.filter (holds k)).Perm
      (items.filter fun a => keys.any fun k => holds k a) := by
  induction keys with
  | nil => simp
  | cons k keys ih =>
      obtain ⟨hk, hrest⟩ := List.nodup_cons.mp hkeys
      -- of the items with any of the keys, those with the first one come first
      have hsplit := List.filter_append_perm (fun a => decide (holds k a))
        (items.filter fun a => (k :: keys).any fun k => holds k a)
      rw [List.filter_filter, List.filter_filter] at hsplit
      have hfirst : ∀ a, decide (holds k a) =
          (decide (holds k a) && (k :: keys).any fun k => holds k a) := by
        intro a
        by_cases h : holds k a <;> simp [h]
      have hothers : ∀ a, (keys.any fun k => holds k a) =
          (!decide (holds k a) && (k :: keys).any fun k => holds k a) := by
        intro a
        by_cases h : holds k a
        · have hnone : ∀ k' ∈ keys, ¬ holds k' a := by
            intro k' hk' h'
            exact hk (hunique k k' a h h' ▸ hk')
          simpa [h] using hnone
        · simp [h]
      have heq := congrArg₂ (· ++ ·) (List.filter_congr (l := items) fun a _ => hfirst a)
        (List.filter_congr (l := items) fun a _ => hothers a)
      rw [List.flatMap_cons]
      exact ((ih hrest).append_left _).trans ((List.Perm.of_eq heq).trans hsplit)

namespace Rule

/-- Whatever the limit, it is the violations of the layers one after the other that are cut. -/
lemma violations_evaluate_layerDependencies (p : Policy) (priority : Priority)
    (limit : Option Nat) (parallel : Bool) (g : Graph) :
    (evaluate g (layerDependencies p.layering p.allowed priority limit parallel)).violations =
      limited limit (p.layers.flatMap fun l =>
        (g.dependencies.filter (p.ForbidsTo l.name)).map Dependency.violation) := by
  have hparts : ∀ r ∈ layerChecks p.layering p.allowed priority, (evaluate g r).OnlyViolations :=
    fun r hr => onlyViolations_of_mem_layerChecks hr g
  rw [layerDependencies_eq, violations_evaluate_compose hparts]
  refine congrArg (limited limit) ?_
  rw [layerChecks, List.flatMap_map, show p.layering.layers = p.layers.map Layer.name from rfl,
    List.flatMap_map]
  refine List.flatMap_congr fun l _ => ?_
  rw [evaluate_check, violations_layerCheck]

/-- Of layers with names of their own, none tells what another one has told. -/
lemma flatMap_forbidsTo_perm {p : Policy} (h : p.problem? = none) (ds : List Dependency) :
    (p.layers.flatMap fun l => (ds.filter (p.ForbidsTo l.name)).map Dependency.violation).Perm
      ((ds.filter p.Forbids).map Dependency.violation) := by
  have hunique : ∀ k k' d, p.ForbidsTo k d → p.ForbidsTo k' d → k = k' := by
    intro k k' d hk hk'
    exact Option.some.inj (hk.1.symm.trans hk'.1)
  have hcover : ∀ d, (p.layerNames.any fun k => p.ForbidsTo k d) = decide (p.Forbids d) := by
    intro d
    rw [Bool.eq_iff_iff, List.any_eq_true, decide_eq_true_iff, Policy.forbids_iff]
    constructor
    · rintro ⟨layer, _, hd⟩
      exact ⟨layer, of_decide_eq_true hd⟩
    · rintro ⟨layer, hd⟩
      exact ⟨layer, Layering.mem_of_layerOf?_ofLayers hd.1, decide_eq_true hd⟩
  have hperm := (flatMap_filter_perm hunique (Policy.problem?_eq_none_iff.mp h).1 ds).map
    Dependency.violation
  rwa [List.filter_congr fun d _ => hcover d, List.map_flatMap, Policy.layerNames,
    List.flatMap_map] at hperm

/-- **What the rule about layers reports.** Without a limit the violations are, layer by layer and
in the order of the graph, the dependencies that the policy forbids to the layer, each with itself
as payload and its description as line. If the policy makes sense, that is each dependency that it
forbids as often as it is there. What is reported is forbidden. -/
theorem violations_layerDependencies (p : Policy) (priority : Priority) (parallel : Bool)
    (g : Graph) :
    let told := (evaluate g (layerDependencies (.ofLayers p.layers) p.allowed priority none
      parallel)).violations
    told = p.layers.flatMap
        (fun l => (g.dependencies.filter (p.ForbidsTo l.name)).map Dependency.violation) ∧
      (p.problem? = none →
        told.Perm ((g.dependencies.filter p.Forbids).map Dependency.violation)) ∧
      ∀ e ∈ told, ∃ d ∈ g.dependencies, p.Forbids d ∧ e = d.violation := by
  intro told
  have htold := violations_evaluate_layerDependencies p priority none parallel g
  refine ⟨htold, fun hvalid => ?_, fun e he => ?_⟩
  · rw [show told = _ from htold]
    exact flatMap_forbidsTo_perm hvalid g.dependencies
  · rw [show told = _ from htold] at he
    obtain ⟨l, _, hl⟩ := List.mem_flatMap.mp he
    obtain ⟨d, hd, rfl⟩ := List.mem_map.mp hl
    obtain ⟨hmem, hforbids⟩ := List.mem_filter.mp hd
    exact ⟨d, hmem, Policy.forbids_iff.mpr ⟨l.name, of_decide_eq_true hforbids⟩, rfl⟩

end Rule

end

namespace Rule

/-- A shop whose store lies in the package of another layer; of its dependencies the first is there
twice and the last comes from outside all layers. -/
theorem violations_layerDependencies_shop :
    let told := (evaluate Graph.shop (layerDependencies (.ofLayers Policy.shop.layers)
      Policy.shop.allowed .high none true)).violations
    Policy.shop.problem? = none ∧
      told = Policy.shop.layers.flatMap (fun l =>
        (Graph.shop.dependencies.filter (Policy.shop.ForbidsTo l.name)).map Dependency.violation) ∧
      told.Perm
        ((Graph.shop.dependencies.filter Policy.shop.Forbids).map Dependency.violation) := by
  have hvalid : Policy.shop.problem? = none := Policy.problem?_eq_none_iff.mpr (by decide +kernel)
  have h := violations_layerDependencies Policy.shop .high true Graph.shop
  exact ⟨hvalid, h.1, h.2.1 hvalid⟩

end Rule

end Strata
