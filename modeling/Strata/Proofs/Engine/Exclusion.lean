import Mathlib.Data.List.Flatten
import Mathlib.Data.List.Perm.Subperm
import Strata.Proofs.Engine.Judging
import Strata.Proofs.Graph.Exclusion
import Strata.Proofs.Rule.Findings
import Strata.Proofs.Text.Sorting

/-!
Leaving names out and what is found. Without some elements a rule finds no more than with them: a
dependency is gone or is told as before, and a misnamed element is gone, or does not matter any
more, or is told with fewer lines (`Policy.Finding.lines_without_sublist`). And what is found was
not left out (`Policy.Finding.occursIn`).
-/

namespace Strata

/-! ### Parts of a graph -/

section Graphs

variable (g : Graph) (excluded : String → Bool)

lemma Graph.dependencies_without_sublist :
    (g.without excluded).dependencies.Sublist g.dependencies := List.filter_sublist

lemma Graph.elements_without_sublist :
    (g.without excluded).elements.Sublist g.elements := List.filter_sublist

lemma Constraint.namingDependencies_without_sublist (c : Constraint) (e : Element) :
    (Rule.namingDependencies c (g.without excluded) e).Sublist (Rule.namingDependencies c g e) :=
  ((g.dependencies_without_sublist excluded).filter _).filter _

end Graphs

variable [Kinds]

/-! ### Payloads -/

namespace Payload

/-- The names of elements in a payload. -/
def names : Payload → List String
  | dependency d => [d.origin, d.target]
  | element e => [e.name]
  | _ => []

/-- A payload is a dependency or an element of a graph. -/
def OccursIn (g : Graph) : Payload → Prop
  | dependency d => d ∈ g.dependencies
  | element e => e ∈ g.elements
  | _ => False

lemma OccursIn.not_excluded {g : Graph} {excluded : String → Bool} {payload : Payload}
    (h : payload.OccursIn (g.without excluded)) {name : String} (hname : name ∈ payload.names) :
    excluded name = false := by
  cases payload with
  | dependency d =>
      have hkept := (List.mem_filter.mp h).2
      rw [Bool.and_eq_true, Bool.not_eq_true', Bool.not_eq_true'] at hkept
      simp only [names, List.mem_cons, List.not_mem_nil, or_false] at hname
      obtain rfl | rfl := hname
      · exact hkept.1
      · exact hkept.2
  | element e =>
      have hkept := (List.mem_filter.mp h).2
      rw [Bool.not_eq_true'] at hkept
      obtain rfl := List.mem_singleton.mp hname
      exact hkept
  | _ => cases h

end Payload

/-- All that an event hands on is about a graph. -/
def Event.IsAbout (g : Graph) (e : Event) : Prop :=
  ∀ d ∈ e.deliveries, ∀ payload ∈ d.payloads, payload.OccursIn g

lemma Dependency.isAbout_violation {g : Graph} {d : Dependency} (h : d ∈ g.dependencies) :
    d.violation.IsAbout g := by
  intro delivery hdelivery payload hpayload
  obtain rfl := List.mem_singleton.mp hdelivery
  obtain rfl := List.mem_singleton.mp hpayload
  exact h

/-! ### What is found without some elements -/

section Without

variable (g : Graph) (excluded : String → Bool)

lemma Policy.crossings_without_sublist (p : Policy) :
    (p.crossings (g.without excluded)).Sublist (p.crossings g) :=
  List.Sublist.flatMap_right _ fun l _ =>
    ((g.dependencies_without_sublist excluded).filter (p.ForbidsTo l.name)).map Dependency.violation

namespace Constraint

variable (c : Constraint) (layering : Layering)

lemma targetViolations_without_sublist :
    (c.targetViolations layering (g.without excluded)).Sublist (c.targetViolations layering g) :=
  ((g.dependencies_without_sublist excluded).filter _).map Dependency.violation

/-- An element may lose some of its lines and keep others, so events are no sublist but lines
are. -/
lemma lines_nameViolations_without_sublist :
    ((c.nameViolations layering (g.without excluded)).flatMap Event.lines).Sublist
      ((c.nameViolations layering g).flatMap Event.lines) := by
  rw [flatMap_lines_nameViolations, flatMap_lines_nameViolations]
  have hlines : ∀ e, (c.nameLines (g.without excluded) e).Sublist (c.nameLines g e) :=
    fun e => (c.namingDependencies_without_sublist g excluded e).map _
  have hmatters : ∀ e, (c.isMisnamed layering e &&
      !(Rule.namingDependencies c (g.without excluded) e).isEmpty) = true →
      (c.isMisnamed layering e && !(Rule.namingDependencies c g e).isEmpty) = true := by
    intro e h
    simp only [Bool.and_eq_true, Bool.not_eq_true', List.isEmpty_eq_false_iff] at h ⊢
    refine ⟨h.1, fun hnil => h.2 ?_⟩
    have hsublist := c.namingDependencies_without_sublist g excluded e
    rwa [hnil, List.sublist_nil] at hsublist
  refine (List.Sublist.flatMap_right _ fun e _ => hlines e).trans (List.Sublist.flatMap ?_ _)
  exact ((g.elements_without_sublist excluded).filter _).trans
    (List.monotone_filter_right _ hmatters)

end Constraint

end Without

namespace Policy.Finding

variable {p : Policy} {found : Graph → List Event}

/-- Without some elements each line is told at most as often. -/
lemma lines_without_sublist (h : p.Finding found) (g : Graph) (excluded : String → Bool) :
    ((found (g.without excluded)).flatMap Event.lines).Sublist
      ((found g).flatMap Event.lines) := by
  cases h with
  | crossings => exact (p.crossings_without_sublist g excluded).flatMap _
  | targets => exact (Constraint.targetViolations_without_sublist g excluded _ _).flatMap _
  | names => exact Constraint.lines_nameViolations_without_sublist g excluded _ _

/-- What is found is in the graph. -/
lemma isAbout (h : p.Finding found) {g : Graph} {e : Event} (he : e ∈ found g) :
    e.IsAbout g := by
  cases h with
  | crossings =>
      obtain ⟨l, -, hl⟩ := List.mem_flatMap.mp he
      obtain ⟨d, hd, rfl⟩ := List.mem_map.mp hl
      exact Dependency.isAbout_violation (List.mem_filter.mp hd).1
  | targets =>
      obtain ⟨d, hd, rfl⟩ := List.mem_map.mp he
      exact Dependency.isAbout_violation (List.mem_filter.mp hd).1
  | names =>
      obtain ⟨element, helement, rfl⟩ := List.mem_map.mp he
      intro delivery hdelivery payload hpayload
      obtain rfl := List.mem_singleton.mp hdelivery
      obtain rfl := List.mem_singleton.mp hpayload
      exact (List.mem_filter.mp helement).1

lemma eq_nil_without (h : p.Finding found) {g : Graph} (hnil : found g = [])
    (excluded : String → Bool) : found (g.without excluded) = [] := by
  have hsublist := h.lines_without_sublist g excluded
  rw [hnil, List.flatMap_nil, List.sublist_nil] at hsublist
  exact (Event.flatMap_lines_eq_nil_iff fun _ => h.lines_ne_nil).mp hsublist

end Policy.Finding

/-! ### Outcomes without some elements -/

namespace Engine

variable {p : Policy} {s : Settings} {r : Rule Graph} (hr : r ∈ rulesFor p s) (g : Graph)
  (excluded : String → Bool)

include hr

/-- Without a maximum a rule reports each line at most as often. -/
lemma details_without_subperm (hmaximum : s.maxViolations = none) :
    (Rule.evaluate (g.without excluded) r).report.details.Subperm
      (Rule.evaluate g r).report.details := by
  obtain ⟨found, hfound, hfinds⟩ := exists_finding hr
  rw [hmaximum] at hfinds
  exact (hfinds.details_perm _).subperm.trans
    ((hfound.lines_without_sublist g excluded).subperm.trans (hfinds.details_perm g).symm.subperm)

/-- With a maximum too, a rule that is not violated is not violated without some elements. -/
lemma hasViolation_without (hmaximum : s.maxViolations ≠ some 0)
    (h : (Rule.evaluate g r).hasViolation = false) :
    (Rule.evaluate (g.without excluded) r).hasViolation = false := by
  obtain ⟨found, hfound, hfinds⟩ := exists_finding hr
  rw [hfinds.hasViolation_eq_false_iff hmaximum] at h ⊢
  exact hfound.eq_nil_without h excluded

/-- What is handed on was not left out. -/
lemma not_excluded_of_mem_deliveries {d : Delivery}
    (hd : d ∈ (Rule.evaluate (g.without excluded) r).deliveries) {payload : Payload}
    (hpayload : payload ∈ d.payloads) {name : String} (hname : name ∈ payload.names) :
    excluded name = false := by
  obtain ⟨found, hfound, hfinds⟩ := exists_finding hr
  obtain ⟨e, he, hd⟩ := List.mem_flatMap.mp hd
  rw [hfinds.violations_eq] at he
  have hfull : e ∈ found (g.without excluded) := (limited_sublist _ _).mem he
  exact (hfound.isAbout hfull d hd payload hpayload).not_excluded hname

end Engine

end Strata
