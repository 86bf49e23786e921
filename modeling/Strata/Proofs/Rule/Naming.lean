import Mathlib.Data.List.Infix
import Mathlib.Data.List.TakeWhile
import Strata.Proofs.Rule.Findings

/-!
What the rule about names reports. The rule goes over the elements and for each of them over all
dependencies, records an event for those whose names are right too, and leaves out the others as
soon as the limit is reached. Main statement: `violations_naming`, what comes of this is one
violation for each element to which the constraint objects (`Constraint.ObjectsTo`), up to the
limit, with a line for each dependency that makes its name matter.
-/

namespace Strata

/-! ### The name without its package -/

namespace Element

lemma not_dot_mem_simpleName (e : Element) : '.' ∉ e.simpleName.toList := by
  intro hmem
  rw [simpleName, String.toList_ofList, List.mem_reverse] at hmem
  have hdot := List.mem_takeWhile_imp hmem
  simp at hdot

/-- The name is a package, a dot and the simple name, or there is no package. -/
lemma name_eq_or (e : Element) :
    e.name = e.simpleName ∨ ∃ package, e.name = package ++ "." ++ e.simpleName := by
  have hname : e.name.toList =
      (e.name.toList.reverse.dropWhile (· != '.')).reverse ++ e.simpleName.toList := by
    rw [simpleName, String.toList_ofList, ← List.reverse_append, List.takeWhile_append_dropWhile,
      List.reverse_reverse]
  cases hrest : e.name.toList.reverse.dropWhile (· != '.') with
  | nil =>
      rw [hrest, List.reverse_nil, List.nil_append] at hname
      exact .inl (String.toList_inj.mp hname)
  | cons c rest =>
      have hdot : (c != '.') = false := by
        have hhead := List.head_dropWhile_not (· != '.') (l := e.name.toList.reverse)
          (by simp [hrest])
        simpa only [hrest, List.head_cons] using hhead
      obtain rfl : c = '.' := by simpa using hdot
      refine .inr ⟨String.ofList rest.reverse, String.toList_inj.mp ?_⟩
      rw [hname, hrest]
      simp

end Element

namespace Constraint

variable (c : Constraint) (layering : Layering) (g : Graph) (e : Element)

/-! ### Elements to which a constraint objects -/

/-- An element belongs to one of the layers of a constraint, if this has layers. -/
def Selects : Prop := c.inLayers = [] ∨ ∃ layer ∈ layering.layerOf? e.name, layer ∈ c.inLayers

/-- A dependency makes the name of an element matter: it starts from there, and its target contains
a text. -/
def Concerns (d : Dependency) : Prop :=
  d.origin = e.name ∧ c.targetMatches.toList <:+: d.target.toList

/-- A name lacks the text that it has to contain, if there is one. -/
def LacksNeeded : Prop :=
  c.nameMustMatch ≠ "" ∧ ¬ c.nameMustMatch.toList <:+: e.simpleName.toList

/-- A name contains the text that it must not contain, if there is one. -/
def HasForbidden : Prop :=
  c.nameMustNotMatch ≠ "" ∧ c.nameMustNotMatch.toList <:+: e.simpleName.toList

/-- An element is selected, its name matters, and its name is wrong. -/
def ObjectsTo : Prop :=
  c.Selects layering e ∧ (∃ d ∈ g.dependencies, c.Concerns e d) ∧
    (c.LacksNeeded e ∨ c.HasForbidden e)

instance : Decidable (c.Selects layering e) := inferInstanceAs (Decidable (_ ∨ _))

instance : DecidablePred (c.Concerns e) := fun _ => inferInstanceAs (Decidable (_ ∧ _))

instance : Decidable (c.LacksNeeded e) := inferInstanceAs (Decidable (_ ∧ _))

instance : Decidable (c.HasForbidden e) := inferInstanceAs (Decidable (_ ∧ _))

instance : Decidable (c.ObjectsTo layering g e) := inferInstanceAs (Decidable (_ ∧ _))

/-- What is wrong with a name. That it lacks something comes first. -/
def objection : String :=
  if c.LacksNeeded e then "name does not contain '" ++ c.nameMustMatch ++ "'"
  else "name contains '" ++ c.nameMustNotMatch ++ "'"

/-! ### The same said by the rule -/

lemma selects_eq_true_iff :
    layering.selects c.inLayers e.name = true ↔ c.Selects layering e := Layering.selects_iff

lemma lacksNeeded_iff :
    c.LacksNeeded e ↔
      (!c.nameMustMatch.isEmpty && !Text.contains e.simpleName c.nameMustMatch) = true := by
  rw [LacksNeeded, ← Text.contains_iff]
  simp

lemma hasForbidden_iff :
    c.HasForbidden e ↔
      (!c.nameMustNotMatch.isEmpty && Text.contains e.simpleName c.nameMustNotMatch) = true := by
  rw [HasForbidden, ← Text.contains_iff]
  simp

lemma nameProblem?_eq :
    Rule.nameProblem? c e.simpleName =
      if c.LacksNeeded e ∨ c.HasForbidden e then some (c.objection e) else none := by
  rw [Rule.nameProblem?, objection]
  simp only [← lacksNeeded_iff, ← hasForbidden_iff]
  by_cases hlacks : c.LacksNeeded e <;> simp [hlacks]

lemma namingDependencies_eq :
    Rule.namingDependencies c g e = g.dependencies.filter (c.Concerns e) := by
  rw [Rule.namingDependencies, Graph.dependenciesFrom, List.filter_filter]
  refine List.filter_congr fun d _ => ?_
  rw [Bool.eq_iff_iff, Bool.and_eq_true, decide_eq_true_iff, Concerns, Text.contains_iff,
    beq_iff_eq, and_comm]

lemma objectsTo_iff :
    c.ObjectsTo layering g e ↔
      (c.isMisnamed layering e && !(Rule.namingDependencies c g e).isEmpty) = true := by
  have hmatters : (!(Rule.namingDependencies c g e).isEmpty) = true ↔
      ∃ d ∈ g.dependencies, c.Concerns e d := by
    rw [namingDependencies_eq]
    simp [List.filter_eq_nil_iff]
  have hwrong : (Rule.nameProblem? c e.simpleName).isSome = true ↔
      c.LacksNeeded e ∨ c.HasForbidden e := by
    rw [nameProblem?_eq]
    split <;> simp [*]
  rw [isMisnamed, Bool.and_eq_true, Bool.and_eq_true, selects_eq_true_iff, hmatters, hwrong,
    ObjectsTo, and_assoc, and_comm (a := _ ∨ _)]

end Constraint

/-! ### What is told of them -/

variable [Kinds]

namespace Constraint

variable (c : Constraint) (layering : Layering) (g : Graph)

/-- The violation that tells an element with all dependencies that make its name matter. -/
def objectionTo (e : Element) : Event :=
  .simple [.element e] false <|
    (g.dependencies.filter (c.Concerns e)).map fun d =>
      d.description ++ ", but its " ++ c.objection e

lemma nameViolations_eq :
    c.nameViolations layering g =
      (g.elements.filter fun e => c.ObjectsTo layering g e).map (c.objectionTo g) := by
  have hfilter : ∀ e, (c.isMisnamed layering e && !(Rule.namingDependencies c g e).isEmpty) =
      decide (c.ObjectsTo layering g e) := by
    intro e
    rw [Bool.eq_iff_iff, decide_eq_true_iff, objectsTo_iff]
  rw [nameViolations, List.filter_congr fun e _ => hfilter e]
  refine List.map_congr_left fun e he => ?_
  obtain ⟨-, -, hwrong⟩ := of_decide_eq_true (List.mem_filter.mp he).2
  rw [nameViolation, nameLines, nameProblem?_eq, if_pos hwrong, namingDependencies_eq]
  rfl

end Constraint

namespace Rule

/-- **What the rule about names reports**: the elements of the graph to which the constraint
objects, in order and as often as they are there, up to the limit. Each is told with a line for
each dependency that makes its name matter, in the order of the graph. The simple name is what
follows the last dot of a name. -/
theorem violations_naming (layering : Layering) (c : Constraint) (priority : Priority)
    (limit : Option Nat) (g : Graph) :
    let told := (evaluate g (naming layering c priority limit)).violations
    told = limited limit
        ((g.elements.filter fun e => c.ObjectsTo layering g e).map (c.objectionTo g)) ∧
      (∀ event ∈ told, ∃ e ∈ g.elements, c.ObjectsTo layering g e ∧ event = c.objectionTo g e) ∧
      ∀ e : Element, '.' ∉ e.simpleName.toList ∧
        (e.name = e.simpleName ∨ ∃ package, e.name = package ++ "." ++ e.simpleName) := by
  intro told
  have htold : told = limited limit
      ((g.elements.filter fun e => c.ObjectsTo layering g e).map (c.objectionTo g)) := by
    rw [← c.nameViolations_eq]
    exact (finds_naming layering c priority limit).violations_eq g
  refine ⟨htold, fun event hevent => ?_, fun e => ⟨e.not_dot_mem_simpleName, e.name_eq_or⟩⟩
  rw [htold] at hevent
  obtain ⟨e, he, rfl⟩ := List.mem_map.mp ((limited_sublist _ _).mem hevent)
  obtain ⟨hmem, hobjects⟩ := List.mem_filter.mp he
  exact ⟨e, hmem, of_decide_eq_true hobjects, rfl⟩

end Rule

end Strata
