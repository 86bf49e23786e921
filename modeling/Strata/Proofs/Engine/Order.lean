import Mathlib.Data.List.Perm.Basic
import Strata.Payload.Plain
import Strata.Proofs.Engine.Judging
import Strata.Proofs.Graph.Exclusion
import Strata.Proofs.Layering.Order
import Strata.Proofs.Text.Sorting

/-!
The order of the input. If no package is listed by two layers, neither the order of layers and
packages nor the order of elements and dependencies matters to what is found, only to where it
stands. Main statement: `evaluateOnly_rearranged`.
-/

namespace Strata

/-- Graphs with the same elements and dependencies, perhaps in another order. -/
structure Graph.Rearranged (g g' : Graph) : Prop where
  elements : g.elements.Perm g'.elements
  dependencies : g.dependencies.Perm g'.dependencies

lemma Graph.Rearranged.without {g g' : Graph} (h : g.Rearranged g') (excluded : String → Bool) :
    (g.without excluded).Rearranged (g'.without excluded) :=
  ⟨h.elements.filter _, h.dependencies.filter _⟩

/-! ### Policies with rearranged layers -/

/-- The policy with other layers. -/
def Policy.withLayers (p : Policy) (ls : List Layer) : Policy := { p with layers := ls }

section Layers

variable {p : Policy} {ls : List Layer}

/-- A policy makes sense in whatever order its layers come. -/
lemma Policy.problem?_withLayers (h : Layering.Rearranged p.layers ls)
    (hvalid : p.problem? = none) : (p.withLayers ls).problem? = none := by
  have hnames : p.layerNames.Perm (p.withLayers ls).layerNames := h.map_name_perm
  have hcontains : ∀ name,
      (p.withLayers ls).layerNames.contains name = p.layerNames.contains name :=
    fun name => hnames.symm.contains_eq
  obtain ⟨hnodup, hdependencies, hconstraints, hentries⟩ := problem?_eq_none_iff.mp hvalid
  refine problem?_eq_none_iff.mpr ⟨hnames.nodup_iff.mp hnodup, fun e he => ?_, fun c hc => ?_,
    fun layer hlayer => hentries layer (hnames.mem_iff.mpr hlayer)⟩
  · have hsame : dependencyProblem? (p.withLayers ls).layerNames e =
        dependencyProblem? p.layerNames e := by
      simp only [dependencyProblem?, hcontains]
    rw [hsame]
    exact hdependencies e he
  · have hsame : constraintProblem? (p.withLayers ls).layerNames c =
        constraintProblem? p.layerNames c := by
      simp only [constraintProblem?, hcontains]
    rw [hsame]
    exact hconstraints c hc

variable (h : Layering.Rearranged p.layers ls) (hapart : Layering.SharesNoPackage p.layers)

include h hapart

lemma Policy.layerOf?_withLayers : (p.withLayers ls).layering.layerOf? = p.layering.layerOf? :=
  funext fun name => Layering.layerOf?_ofLayers_eq hapart h.mem_listed_iff name

lemma Policy.selects_withLayers : (p.withLayers ls).layering.selects = p.layering.selects := by
  funext layers name
  rw [Layering.selects, Layering.selects, layerOf?_withLayers h hapart]

lemma Policy.forbids_withLayers : (p.withLayers ls).Forbids = p.Forbids := by
  funext d
  rw [Forbids, Forbids, layerOf?_withLayers h hapart]
  rfl

end Layers

/-! ### Limits -/

lemma length_limited_congr {α : Type} (limit : Option Nat) {l l' : List α}
    (h : l'.length = l.length) : (limited limit l').length = (limited limit l).length := by
  rw [length_limited, length_limited, h]

/-- If there is nothing to note, nothing is missing. -/
lemma limited_eq_self {α : Type} {limit : Option Nat} {l : List α}
    (h : EventLog.limitNote limit l.length = none) : limited limit l = l := by
  cases limit with
  | none => rfl
  | some n =>
      rw [← Option.not_isSome_iff_eq_none, EventLog.isSome_limitNote, Nat.not_lt] at h
      exact List.take_of_length_le h

section

variable [Kinds]

/-! ### Events in another order -/

/-- There are as many events, and they tell the same lines. -/
structure Event.TellAlike (es es' : List Event) : Prop where
  length_eq : es'.length = es.length
  lines_perm : (es'.flatMap lines).Perm (es.flatMap lines)

lemma Event.TellAlike.of_perm {es es' : List Event} (h : es'.Perm es) : TellAlike es es' :=
  ⟨h.length_eq, h.flatMap_right _⟩

/-! ### What is found in another order -/

section Found

variable {p : Policy} {ls : List Layer} {g g' : Graph}
  (h : Layering.Rearranged p.layers ls) (hapart : Layering.SharesNoPackage p.layers)
  (hg : g.Rearranged g')

include hg

omit [Kinds] in
lemma Constraint.namingDependencies_perm (c : Constraint) (e : Element) :
    (Rule.namingDependencies c g' e).Perm (Rule.namingDependencies c g e) :=
  (hg.dependencies.symm.filter _).filter _

include h hapart

lemma Policy.tellAlike_crossings (hvalid : p.problem? = none) :
    Event.TellAlike (p.crossings g) ((p.withLayers ls).crossings g') := by
  have hforbids : ∀ d, decide ((p.withLayers ls).Forbids d) = decide (p.Forbids d) :=
    fun d => decide_eq_decide.mpr (by rw [forbids_withLayers h hapart])
  have hdependencies : (g'.dependencies.filter (p.withLayers ls).Forbids).Perm
      (g.dependencies.filter p.Forbids) := by
    rw [List.filter_congr fun d _ => hforbids d]
    exact hg.dependencies.symm.filter _
  -- each policy tells what it forbids layer by layer, so in an order of its own
  refine .of_perm ?_
  exact (Rule.flatMap_forbidsTo_perm (problem?_withLayers h hvalid) g'.dependencies).trans
    ((hdependencies.map _).trans (Rule.flatMap_forbidsTo_perm hvalid g.dependencies).symm)

lemma Constraint.tellAlike_targetViolations (c : Constraint) :
    Event.TellAlike (c.targetViolations p.layering g)
      (c.targetViolations (p.withLayers ls).layering g') := by
  refine .of_perm ?_
  rw [targetViolations, targetViolations, Policy.selects_withLayers h hapart]
  exact (hg.dependencies.symm.filter _).map _

/-- The elements are the same, and what is told of each of them comes in another order. -/
lemma Constraint.tellAlike_nameViolations (c : Constraint) :
    Event.TellAlike (c.nameViolations p.layering g)
      (c.nameViolations (p.withLayers ls).layering g') := by
  have hmisnamed : c.isMisnamed (p.withLayers ls).layering = c.isMisnamed p.layering := by
    funext e
    rw [isMisnamed, isMisnamed, Policy.selects_withLayers h hapart]
  have hmatters : ∀ e, (c.isMisnamed (p.withLayers ls).layering e &&
      !(Rule.namingDependencies c g' e).isEmpty) =
        (c.isMisnamed p.layering e && !(Rule.namingDependencies c g e).isEmpty) := by
    intro e
    rw [hmisnamed, (c.namingDependencies_perm hg e).isEmpty_eq]
  have hperm : (g'.elements.filter fun e => c.isMisnamed (p.withLayers ls).layering e &&
      !(Rule.namingDependencies c g' e).isEmpty).Perm
        (g.elements.filter fun e => c.isMisnamed p.layering e &&
          !(Rule.namingDependencies c g e).isEmpty) := by
    rw [List.filter_congr fun e _ => hmatters e]
    exact hg.elements.symm.filter _
  constructor
  · rw [nameViolations, nameViolations, List.length_map, List.length_map, hperm.length_eq]
  · rw [flatMap_lines_nameViolations, flatMap_lines_nameViolations]
    exact hperm.flatMap fun e _ => (c.namingDependencies_perm hg e).map _

end Found

/-! ### Outcomes -/

/-- Two outcomes report alike: as many violations of one priority with one note, and the same lines
unless the note says that some are missing. -/
structure Outcome.ReportsLike (o o' : Outcome) : Prop where
  priority_eq : o'.priority = o.priority
  count_eq : o'.count = o.count
  note_eq : o'.note = o.note
  details_eq : o.note = none → o'.report.details = o.report.details

lemma Outcome.ReportsLike.countsLike {o o' : Outcome} (h : ReportsLike o o') : CountsLike o o' where
  priority_eq := h.priority_eq
  hasViolation_eq := by
    rw [Bool.eq_iff_iff, hasViolation_iff, hasViolation_iff, ← List.length_pos_iff,
      ← List.length_pos_iff, ← count, ← count, h.count_eq]

/-- Two rules of one name find alike, each in its graph. -/
structure Rule.FindsAlike (g g' : Graph) (limit : Option Nat) (r r' : Rule Graph) : Prop where
  name_eq : r'.name = r.name
  priority_eq : r'.priority = r.priority
  exists_found : ∃ found found', r.Finds limit found ∧ r'.Finds limit found' ∧
    Event.TellAlike (found g) (found' g')

/-- What is found decides what is reported. -/
lemma Rule.FindsAlike.reportsLike {g g' : Graph} {limit : Option Nat} {r r' : Rule Graph}
    (h : FindsAlike g g' limit r r') : Outcome.ReportsLike (evaluate g r) (evaluate g' r') := by
  obtain ⟨found, found', hfinds, hfinds', htell⟩ := h.exists_found
  have hnote : (evaluate g' r').note = (evaluate g r).note := by
    rw [hfinds.note_eq, hfinds'.note_eq, htell.length_eq]
  refine ⟨?_, ?_, hnote, fun hnone => ?_⟩
  · rw [hfinds.priority_eq, hfinds'.priority_eq, h.priority_eq]
  · rw [Outcome.count, Outcome.count, hfinds.violations_eq, hfinds'.violations_eq,
      length_limited_congr limit htell.length_eq]
  · have hnone' := hnote.trans hnone
    rw [hfinds.note_eq] at hnone
    rw [hfinds'.note_eq] at hnone'
    show Text.sortLines ((evaluate g' r').violations.flatMap Event.lines) =
      Text.sortLines ((evaluate g r).violations.flatMap Event.lines)
    rw [hfinds.violations_eq, hfinds'.violations_eq, limited_eq_self hnone, limited_eq_self hnone']
    exact Text.sortLines_eq_of_perm htell.lines_perm

namespace Engine

section Rearranged

variable {p : Policy} {ls : List Layer} {g g' : Graph}
  (h : Layering.Rearranged p.layers ls) (hapart : Layering.SharesNoPackage p.layers)
  (hg : g.Rearranged g')

include h hapart hg

lemma findsAlike_layerRule? (s : Settings) (hvalid : p.problem? = none) :
    Option.Rel (Rule.FindsAlike g g' s.maxViolations) (layerRule? p s)
      (layerRule? (p.withLayers ls) s) := by
  have hempty : (p.withLayers ls).isEmpty = p.isEmpty := by
    have hnames := h.map_name_perm.isEmpty_eq
    rw [List.isEmpty_map, List.isEmpty_map] at hnames
    exact hnames.symm
  rw [layerRule?, layerRule?, hempty]
  split
  · exact .some ⟨rfl, rfl, _, _, Rule.finds_layerDependencies p _ _ _,
      Rule.finds_layerDependencies (p.withLayers ls) _ _ _,
      Policy.tellAlike_crossings h hapart hg hvalid⟩
  · exact .none

lemma findsAlike_constraintRule? (s : Settings) (c : Constraint) :
    Option.Rel (Rule.FindsAlike g g' s.maxViolations) (constraintRule? p s c)
      (constraintRule? (p.withLayers ls) s c) := by
  rw [constraintRule?, constraintRule?]
  split
  · exact .some ⟨rfl, rfl, _, _, Rule.finds_dependencyPattern _ c _ _,
      Rule.finds_dependencyPattern _ c _ _, c.tellAlike_targetViolations h hapart hg⟩
  · split
    · exact .some ⟨rfl, rfl, _, _, Rule.finds_naming _ c _ _, Rule.finds_naming _ c _ _,
        c.tellAlike_nameViolations h hapart hg⟩
    · exact .none

lemma findsAlike_selected (s : Settings) (hvalid : p.problem? = none) (only : List String) :
    List.Forall₂ (Rule.FindsAlike g g' s.maxViolations) ((assembled p s).selected only)
      ((assembled (p.withLayers ls) s).selected only) := by
  refine rel_selected (fun _ _ h => h.name_eq) (List.rel_append ?_ ?_) only
  · exact forall₂_toList (findsAlike_layerRule? h hapart hg s hvalid)
  · refine List.rel_filterMap (R := Eq) ?_ (List.forall₂_same.mpr fun _ _ => rfl)
    rintro c _ rfl
    exact findsAlike_constraintRule? h hapart hg s c

end Rearranged

/-- **The order of the input does not matter.** If no package is listed by two layers, then with
layers and their packages, elements and dependencies in any order the same rules are evaluated, and
each has as many violations of the same priority with the same note, and reports the same lines
unless the note says that some are missing. So the same graphs pass. -/
theorem evaluateOnly_rearranged {p : Policy} {s : Settings} {e : Engine} {ls : List Layer}
    {g g' : Graph} {only : List String} {os : List Outcome} (hbuild : build p s = .ok e)
    (hapart : Layering.SharesNoPackage p.layers) (hlayers : Layering.Rearranged p.layers ls)
    (hg : g.Rearranged g') (hos : e.evaluateOnly g only = .ok os) :
    ∃ e' os', build (p.withLayers ls) s = .ok e' ∧ e'.evaluateOnly g' only = .ok os' ∧
      (e'.selected only).map Rule.name = (e.selected only).map Rule.name ∧
      os'.length = os.length ∧
      (∀ i (h : i < os.length) (h' : i < os'.length), os'[i].priority = os[i].priority ∧
        os'[i].count = os[i].count ∧ os'[i].note = os[i].note ∧
        (os[i].note = none → os'[i].report.details = os[i].report.details)) ∧
      ∀ threshold, Verdict.passes ⟨os', threshold⟩ = Verdict.passes ⟨os, threshold⟩ := by
  obtain ⟨hvalid, rfl⟩ := build_eq_ok_iff.mp hbuild
  obtain ⟨rest, hrest, rfl⟩ := evaluateOnly_eq_ok_iff.mp hos
  obtain ⟨hpatterns, rfl⟩ := Graph.withoutMatching_eq_ok_iff.mp hrest
  have hrest' := Graph.withoutMatching_eq_ok_iff.mpr
    ⟨hpatterns, rfl (a := g'.without (Glob.anyHits (assembled p s).exclude))⟩
  have hrules := findsAlike_selected hlayers hapart
    (hg.without (Glob.anyHits (assembled p s).exclude)) s hvalid only
  have hnames : ((assembled (p.withLayers ls) s).selected only).map Rule.name =
      ((assembled p s).selected only).map Rule.name := by
    rw [← List.forall₂_eq_eq_eq, List.forall₂_map_left_iff, List.forall₂_map_right_iff]
    exact hrules.flip.imp fun _ _ h => h.name_eq
  have hreports : List.Forall₂ Outcome.ReportsLike _
      (((assembled (p.withLayers ls) s).selected only).map (Rule.evaluate _)) :=
    List.rel_map (fun _ _ h => h.reportsLike) hrules
  have hbuild' := build_eq_ok_iff.mpr
    ⟨Policy.problem?_withLayers hlayers hvalid, rfl (a := assembled (p.withLayers ls) s)⟩
  refine ⟨_, _, hbuild', evaluateOnly_eq_ok_iff.mpr ⟨_, hrest', rfl⟩, hnames,
    hreports.length_eq.symm, fun i h h' => ?_, fun threshold => ?_⟩
  · have hi := (List.forall₂_iff_get.mp hreports).2 i h h'
    exact ⟨hi.priority_eq, hi.count_eq, hi.note_eq, hi.details_eq⟩
  · exact Outcome.passes_eq (hreports.imp fun _ _ h => h.countsLike) threshold

end Engine

end

namespace Engine

/-- A shop with layers in another order, with the packages of one in another order, and with the
graph backwards. One violation is kept. -/
theorem evaluateOnly_rearranged_shop :
    let p := Policy.shop.withLayers [⟨"domain", ["shop.domain", "shop.model"]⟩,
      ⟨"app", ["shop.app"]⟩, ⟨"store", ["shop.app.store"]⟩]
    let ls : List Layer := [⟨"store", ["shop.app.store"]⟩,
      ⟨"domain", ["shop.model", "shop.domain"]⟩, ⟨"app", ["shop.app"]⟩]
    let g' : Graph := ⟨Graph.shop.elements.reverse, Graph.shop.dependencies.reverse⟩
    let e := assembled p (Settings.standard.withMaximum (some 1))
    let os := e.rules.map (Rule.evaluate .shop)
    Layering.SharesNoPackage p.layers ∧ Layering.Rearranged p.layers ls ∧
      Graph.Rearranged .shop g' ∧ build p (Settings.standard.withMaximum (some 1)) = .ok e ∧
      e.evaluateOnly .shop [] = .ok os ∧
      ∃ e' os', build (p.withLayers ls) (Settings.standard.withMaximum (some 1)) = .ok e' ∧
        e'.evaluateOnly g' [] = .ok os' ∧
        os'.length = os.length ∧
        (∀ i (h : i < os.length) (h' : i < os'.length), os'[i].priority = os[i].priority ∧
          os'[i].count = os[i].count ∧ os'[i].note = os[i].note ∧
          (os[i].note = none → os'[i].report.details = os[i].report.details)) ∧
        ∀ threshold, Verdict.passes ⟨os', threshold⟩ = Verdict.passes ⟨os, threshold⟩ := by
  intro p ls g' e os
  have hapart : Layering.SharesNoPackage p.layers := by decide +kernel
  have hlayers : Layering.Rearranged p.layers ls :=
    ⟨[⟨"store", ["shop.app.store"]⟩, ⟨"domain", ["shop.domain", "shop.model"]⟩,
      ⟨"app", ["shop.app"]⟩], by decide +kernel,
      .cons ⟨rfl, .refl _⟩ (.cons ⟨rfl, .swap _ _ _⟩ (.cons ⟨rfl, .refl _⟩ .nil))⟩
  have hg : Graph.Rearranged .shop g' := ⟨(List.reverse_perm _).symm, (List.reverse_perm _).symm⟩
  have hbuild : build p (Settings.standard.withMaximum (some 1)) = .ok e :=
    build_eq_ok_iff.mpr ⟨Policy.problem?_eq_none_iff.mpr (by decide +kernel), rfl⟩
  have hos : e.evaluateOnly .shop [] = .ok os :=
    evaluateOnly_eq_ok_iff.mpr ⟨.shop, rfl, by simp [os, selected]⟩
  obtain ⟨e', os', he', hos', -, hsame⟩ := evaluateOnly_rearranged hbuild hapart hlayers hg hos
  exact ⟨hapart, hlayers, hg, hbuild, hos, e', os', he', hos', hsame⟩

end Engine

end Strata
