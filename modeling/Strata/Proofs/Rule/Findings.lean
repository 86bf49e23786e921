import Strata.Engine
import Strata.Proofs.Rule.Constraints
import Strata.Proofs.Rule.LayerDependencies

/-!
What rules find in a graph, whatever they keep of it. Each rule that an engine can build has a list
of violations for each graph, and its outcome is the first of them with a note on how many there
are in all (`Rule.Finds`). The lists say nothing of logs, conditions or parts of rules:

* `Policy.crossings` for the rule about layers;
* `Constraint.targetViolations` and `Constraint.nameViolations` for the rules of constraints.
-/

namespace Strata

variable [Kinds]

/-- A rule finds the violations of a list in each graph and keeps the first of them. -/
structure Rule.Finds (r : Rule Graph) (limit : Option Nat) (found : Graph → List Event) : Prop where
  priority_eq : ∀ g, (evaluate g r).priority = r.priority
  violations_eq : ∀ g, (evaluate g r).violations = limited limit (found g)
  note_eq : ∀ g, (evaluate g r).note = EventLog.limitNote limit (found g).length

namespace Rule.Finds

variable {r : Rule Graph} {limit : Option Nat} {found : Graph → List Event}

/-- A limit hides that there are violations only if it leaves no place for any. -/
lemma hasViolation_eq_false_iff (h : r.Finds limit found) (hlimit : limit ≠ some 0) {g : Graph} :
    (evaluate g r).hasViolation = false ↔ found g = [] := by
  rw [← Bool.not_eq_true, Outcome.hasViolation_iff, h.violations_eq, not_not,
    limited_eq_nil_iff hlimit]

/-- Without a limit the lines of the report are those of all violations. -/
lemma details_perm (h : r.Finds none found) (g : Graph) :
    (evaluate g r).report.details.Perm ((found g).flatMap Event.lines) := by
  have hviolations := h.violations_eq g
  rw [limited_none] at hviolations
  rw [← hviolations]
  exact Text.sortLines_perm _

end Rule.Finds

/-- A recorder finds the violations among its events. -/
lemma Recorder.finds (r : Recorder Graph) :
    Rule.Finds (.check r.toCheck) r.limit fun g => (r.events g).filter (·.isViolation) where
  priority_eq g := by
    rw [Rule.evaluate_check]
    rfl
  violations_eq g := by rw [Rule.evaluate_check, r.violations_evaluate]
  note_eq g := by rw [Rule.evaluate_check, r.note_evaluate, List.countP_eq_length_filter]

/-! ### Layers -/

/-- The dependencies that a policy forbids to its layers, layer by layer, as violations. -/
def Policy.crossings (p : Policy) (g : Graph) : List Event :=
  p.layers.flatMap fun l => (g.dependencies.filter (p.ForbidsTo l.name)).map Dependency.violation

lemma Rule.finds_layerDependencies (p : Policy) (priority : Priority) (limit : Option Nat)
    (parallel : Bool) :
    Finds (layerDependencies p.layering p.allowed priority limit parallel) limit p.crossings where
  priority_eq g := by
    rw [layerDependencies_eq, priority_evaluate_compose]
    rfl
  violations_eq g := violations_evaluate_layerDependencies p priority limit parallel g
  note_eq g := by
    have hparts : ∀ r ∈ layerChecks p.layering p.allowed priority, (evaluate g r).OnlyViolations :=
      fun r hr => onlyViolations_of_mem_layerChecks hr g
    have hnone : ((layerChecks p.layering p.allowed priority).findSome? fun r =>
        (evaluate g r).note) = none :=
      List.findSome?_eq_none_iff.mpr fun r hr => note_of_mem_layerChecks hr g
    -- without a limit all that the parts hold is there
    have hall : ((layerChecks p.layering p.allowed priority).flatMap fun r =>
        (evaluate g r).violations) = p.crossings g := by
      have h := violations_evaluate_layerDependencies p priority none parallel g
      rwa [layerDependencies_eq, violations_evaluate_compose hparts] at h
    rw [layerDependencies_eq, note_evaluate_compose hparts, hnone, Option.none_or, hall]
    rfl

/-! ### Targets -/

/-- The dependencies of selected elements whose targets contain the pattern, as violations. -/
def Constraint.targetViolations (c : Constraint) (layering : Layering) (g : Graph) : List Event :=
  (g.dependencies.filter fun d =>
    layering.selects c.inLayers d.origin && Text.contains d.target c.pattern).map
      Dependency.violation

lemma Rule.finds_dependencyPattern (layering : Layering) (c : Constraint) (priority : Priority)
    (limit : Option Nat) :
    Finds (dependencyPattern layering c priority limit) limit (c.targetViolations layering) := by
  have hfound : ∀ g, ((dependencyPatternRecorder layering c priority limit).events g).filter
      (·.isViolation) = c.targetViolations layering g := by
    intro g
    simp only [dependencyPatternRecorder, Condition.filter_isViolation_map_single, Bool.not_not,
      List.filter_filter]
    refine congrArg (List.map Dependency.violation) (List.filter_congr fun d _ => ?_)
    exact Bool.and_comm _ _
  rw [dependencyPattern_eq, ← funext hfound]
  exact (dependencyPatternRecorder layering c priority limit).finds

/-! ### Names -/

namespace Constraint

/-- Whether an element is selected and has a name that is wrong. -/
def isMisnamed (c : Constraint) (layering : Layering) (e : Element) : Bool :=
  layering.selects c.inLayers e.name && (Rule.nameProblem? c e.simpleName).isSome

/-- The lines about the dependencies that make the name of an element matter. -/
def nameLines (c : Constraint) (g : Graph) (e : Element) : List String :=
  (Rule.namingDependencies c g e).map (Rule.namingLine (Rule.nameProblem? c e.simpleName))

/-- An element with a name that is wrong, as a violation. -/
def nameViolation (c : Constraint) (g : Graph) (e : Element) : Event :=
  .simple [.element e] false (c.nameLines g e)

/-- The misnamed elements whose names matter, as violations. -/
def nameViolations (c : Constraint) (layering : Layering) (g : Graph) : List Event :=
  (g.elements.filter fun e =>
    c.isMisnamed layering e && !(Rule.namingDependencies c g e).isEmpty).map (c.nameViolation g)

lemma flatMap_lines_nameViolations (c : Constraint) (layering : Layering) (g : Graph) :
    (c.nameViolations layering g).flatMap Event.lines =
      (g.elements.filter fun e => c.isMisnamed layering e &&
        !(Rule.namingDependencies c g e).isEmpty).flatMap (c.nameLines g) := by
  rw [nameViolations, List.flatMap_map]
  rfl

lemma namingEvent?_eq (c : Constraint) (g : Graph) (e : Element) :
    Rule.namingEvent? c g e =
      if (Rule.namingDependencies c g e).isEmpty then none
      else some (.simple [.element e] (Rule.nameProblem? c e.simpleName).isNone
        (c.nameLines g e)) := by
  rw [Rule.namingEvent?, nameLines]
  cases Rule.namingDependencies c g e <;> rfl

lemma filter_isViolation_namingEvents (c : Constraint) (layering : Layering) (g : Graph)
    (es : List Element) :
    ((es.filter fun e => layering.selects c.inLayers e.name).filterMap
        (Rule.namingEvent? c g)).filter (·.isViolation) =
      (es.filter fun e => c.isMisnamed layering e && !(Rule.namingDependencies c g e).isEmpty).map
        (c.nameViolation g) := by
  induction es with
  | nil => rfl
  | cons e es ih =>
      have hevent := namingEvent?_eq c g e
      by_cases hselected : layering.selects c.inLayers e.name
      · by_cases hempty : (Rule.namingDependencies c g e).isEmpty
        · simp [hselected, hevent, hempty, ih]
        · cases hproblem : Rule.nameProblem? c e.simpleName with
          | none => simp [hselected, hevent, hempty, ih, isMisnamed, hproblem, Event.isViolation]
          | some problem =>
              simp [hselected, hevent, hempty, ih, isMisnamed, hproblem, Event.isViolation,
                nameViolation]
      · simp [hselected, isMisnamed, ih]

end Constraint

lemma Rule.finds_naming (layering : Layering) (c : Constraint) (priority : Priority)
    (limit : Option Nat) :
    Finds (naming layering c priority limit) limit (c.nameViolations layering) := by
  rw [naming_eq]
  have hfound : ∀ g, ((namingRecorder layering c priority limit).events g).filter
      (·.isViolation) = c.nameViolations layering g :=
    fun g => c.filter_isViolation_namingEvents layering g g.elements
  rw [← funext hfound]
  exact (namingRecorder layering c priority limit).finds

/-! ### All rules of an engine -/

/-- Of events that tell something each, there are lines iff there are events. -/
lemma Event.flatMap_lines_eq_nil_iff {es : List Event} (h : ∀ e ∈ es, e.lines ≠ []) :
    es.flatMap lines = [] ↔ es = [] := by
  rw [List.flatMap_eq_nil_iff, List.eq_nil_iff_forall_not_mem]
  exact forall₂_congr fun e he => iff_false_intro (h e he)

/-- The lists of violations that rules for a policy find. -/
inductive Policy.Finding (p : Policy) : (Graph → List Event) → Prop where
  | crossings : Finding p p.crossings
  | targets {c : Constraint} (hc : c ∈ p.constraints) : Finding p (c.targetViolations p.layering)
  | names {c : Constraint} (hc : c ∈ p.constraints) : Finding p (c.nameViolations p.layering)

namespace Policy.Finding

variable {p : Policy} {found : Graph → List Event}

/-- Every violation tells something. -/
lemma lines_ne_nil (h : p.Finding found) {g : Graph} {e : Event} (he : e ∈ found g) :
    e.lines ≠ [] := by
  cases h with
  | crossings =>
      obtain ⟨l, -, hl⟩ := List.mem_flatMap.mp he
      obtain ⟨d, -, rfl⟩ := List.mem_map.mp hl
      exact List.cons_ne_nil _ _
  | targets =>
      obtain ⟨d, -, rfl⟩ := List.mem_map.mp he
      exact List.cons_ne_nil _ _
  | names =>
      obtain ⟨element, helement, rfl⟩ := List.mem_map.mp he
      have hmatters := (List.mem_filter.mp helement).2
      simp only [Bool.and_eq_true, Bool.not_eq_true', List.isEmpty_eq_false_iff] at hmatters
      exact fun hnil => hmatters.2 (List.map_eq_nil_iff.mp hnil)

end Policy.Finding

/-- The name of a rule that is built tells which of these lists it finds. -/
lemma Engine.finds_of_mem_rulesFor {p : Policy} {s : Settings} {r : Rule Graph}
    (h : r ∈ rulesFor p s) :
    (r.name = Rule.layerDependenciesName ∧ r.Finds s.maxViolations p.crossings) ∨
      (r.name = Rule.dependencyPatternName ∧ ∃ c ∈ p.constraints,
        r.Finds s.maxViolations (c.targetViolations p.layering)) ∨
      (r.name = Rule.namingName ∧ ∃ c ∈ p.constraints,
        r.Finds s.maxViolations (c.nameViolations p.layering)) := by
  rcases List.mem_append.mp h with hlayers | hconstraints
  · rw [Option.mem_toList, layerRule?] at hlayers
    split at hlayers
    · cases hlayers
      exact .inl ⟨rfl, Rule.finds_layerDependencies p _ _ _⟩
    · cases hlayers
  · obtain ⟨c, hmem, hc⟩ := List.mem_filterMap.mp hconstraints
    rw [constraintRule?] at hc
    split at hc
    · cases hc
      exact .inr (.inl ⟨rfl, c, hmem, Rule.finds_dependencyPattern _ c _ _⟩)
    · split at hc
      · cases hc
        exact .inr (.inr ⟨rfl, c, hmem, Rule.finds_naming _ c _ _⟩)
      · cases hc

/-- Every rule that is built finds one of these lists. -/
lemma Engine.exists_finding {p : Policy} {s : Settings} {r : Rule Graph} (h : r ∈ rulesFor p s) :
    ∃ found, p.Finding found ∧ r.Finds s.maxViolations found := by
  rcases finds_of_mem_rulesFor h with ⟨-, hfinds⟩ | ⟨-, c, hc, hfinds⟩ | ⟨-, c, hc, hfinds⟩
  · exact ⟨_, .crossings, hfinds⟩
  · exact ⟨_, .targets hc, hfinds⟩
  · exact ⟨_, .names hc, hfinds⟩

end Strata
