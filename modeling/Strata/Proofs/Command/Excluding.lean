import Strata.Payload.Plain
import Strata.Proofs.Command.Check
import Strata.Proofs.Engine.Exclusion

/-!
Excluding more names. A check that excludes more reports no more, so it passes if the one that
excludes less does. Main statement: `evaluateOnly_withExcluded`.
-/

namespace Strata

section

variable [Kinds]

/-- Nothing that an outcome hands on has a name that is excluded. -/
def Outcome.Avoids (excluded : String → Bool) (o : Outcome) : Prop :=
  ∀ d ∈ o.deliveries, ∀ payload ∈ d.payloads, ∀ name ∈ payload.names, excluded name = false

namespace Engine

variable {p : Policy} {s : Settings} {rules : List (Rule Graph)}

lemma avoids_of_mem_map_evaluate (hrules : rules ⊆ rulesFor p s) {g : Graph}
    {excluded : String → Bool} {o : Outcome}
    (ho : o ∈ rules.map (Rule.evaluate (g.without excluded))) : o.Avoids excluded := by
  obtain ⟨r, hr, rfl⟩ := List.mem_map.mp ho
  intro d hd payload hpayload name hname
  exact not_excluded_of_mem_deliveries (hrules hr) g excluded hd hpayload hname

/-- Rules that let a graph pass let it pass without some of its elements. -/
lemma passes_without (hrules : rules ⊆ rulesFor p s) (hmaximum : s.maxViolations ≠ some 0)
    {g : Graph} {threshold : Priority}
    (h : Verdict.passes ⟨rules.map (Rule.evaluate g), threshold⟩ = true)
    (excluded : String → Bool) :
    Verdict.passes ⟨rules.map (Rule.evaluate (g.without excluded)), threshold⟩ = true := by
  rw [Verdict.passes_iff] at h ⊢
  intro o ho hviolated
  obtain ⟨r, hr, rfl⟩ := List.mem_map.mp ho
  have hbefore : (Rule.evaluate g r).hasViolation = true := by
    by_contra hnone
    rw [Bool.not_eq_true] at hnone
    rw [hasViolation_without (hrules hr) g excluded hmaximum hnone] at hviolated
    cases hviolated
  rw [priority_evaluate (hrules hr), ← priority_evaluate (hrules hr) g]
  exact h _ (List.mem_map_of_mem hr) hbefore

end Engine

end

namespace Command

variable {p : Policy} {more : List String}

lemma withoutMatching_withExcluded {g rest : Graph} (hrest : g.withoutMatching p.exclude = .ok rest)
    (hmore : ∀ q ∈ more, Glob.IsPattern q) :
    g.withoutMatching (withExcluded more p).exclude = .ok (rest.without (Glob.anyHits more)) := by
  obtain ⟨hown, rfl⟩ := Graph.withoutMatching_eq_ok_iff.mp hrest
  exact Graph.withoutMatching_eq_ok_iff.mpr
    ⟨List.forall_mem_append.mpr ⟨hown, hmore⟩, (g.without_anyHits_append _ _).symm⟩

/-- Judging without more names comes to a verdict too, and passes if it did. -/
lemma exists_judge_withExcluded [Kinds] {s : Settings} {g : Graph} {only : List String} {v : Verdict}
    (hv : judge s p g only = .ok v) (hmaximum : s.maxViolations ≠ some 0)
    (hmore : ∀ q ∈ more, Glob.IsPattern q) :
    ∃ v', judge s (withExcluded more p) g only = .ok v' ∧ (v.passes = true → v'.passes = true) := by
  obtain ⟨e, rest, he, hrest, rfl⟩ := judge_eq_ok_iff.mp hv
  obtain ⟨hvalid, rfl⟩ := Engine.build_eq_ok_iff.mp he
  refine ⟨_, judge_eq_ok_iff.mpr ⟨_, _, Engine.build_eq_ok_iff.mpr ⟨hvalid, rfl⟩,
    withoutMatching_withExcluded hrest hmore, rfl⟩, fun hpasses => ?_⟩
  exact Engine.passes_without (p := p) (fun _ => Engine.mem_of_mem_selected) hmaximum hpasses _

/-- A check that passes still passes if it excludes more. -/
lemma exists_ending_excluding {files : Files Id} {env : Environment} {i : Invocation}
    {o : CheckOptions} {output : String} (hi : i.command = .check o)
    (hend : Program.ending files env i = .ok (output, true))
    (hmore : ∀ q ∈ more, Glob.IsPattern q) :
    ∃ output', Program.ending files env
      { i with command := .check { o with exclude := o.exclude ++ more } } =
        .ok (output', true) := by
  obtain ⟨config, graph, s, p, g, v, hloads, hs, hp, hg, hv, -, hpasses⟩ :=
    (Program.ending_check_eq_ok_iff hi).mp hend
  obtain ⟨v', hv', hpasses'⟩ :=
    exists_judge_withExcluded hv (Settings.maxViolations_pos hs) hmore
  have happend : withExcluded more (withExcluded o.exclude p) =
      withExcluded (o.exclude ++ more) p := by
    simp only [withExcluded, List.append_assoc]
  rw [happend] at hv'
  refine ⟨_, (Program.ending_check_eq_ok_iff (o := { o with exclude := o.exclude ++ more })
    rfl).mpr ⟨config, graph, s, p, g, v', hloads, hs, hp, hg, hv', rfl, ?_⟩⟩
  exact (hpasses' hpasses.symm).symm

/-- **Excluding more finds no more.** Without a maximum of violations each rule reports each line at
most as often as before, with one a rule that is not violated stays so, and nothing that is handed
on has a name that is excluded. So a check that passes still passes. -/
theorem evaluateOnly_withExcluded [Kinds] {s : Settings} {e : Engine}
    (hbuild : Engine.build p s = .ok e) (hown : ∀ q ∈ p.exclude, Glob.IsPattern q)
    (hmore : ∀ q ∈ more, Glob.IsPattern q) (g : Graph) (only : List String) :
    (∃ e' os os', Engine.build (withExcluded more p) s = .ok e' ∧ e.evaluateOnly g only = .ok os ∧
      e'.evaluateOnly g only = .ok os' ∧ os'.length = os.length ∧
      (∀ i (h : i < os.length) (h' : i < os'.length),
        (s.maxViolations = none → os'[i].report.details.Subperm os[i].report.details) ∧
        (s.maxViolations ≠ some 0 → os[i].hasViolation = false → os'[i].hasViolation = false)) ∧
      (∀ o ∈ os, o.Avoids (Glob.anyHits p.exclude)) ∧
      ∀ o ∈ os', o.Avoids (Glob.anyHits (p.exclude ++ more))) ∧
    ∀ files env i o output, i.command = .check o →
      Program.ending files env i = .ok (output, true) →
      ∃ output', Program.ending files env
        { i with command := .check { o with exclude := o.exclude ++ more } } =
          .ok (output', true) := by
  refine ⟨?_, fun files env i o output hi hend => exists_ending_excluding hi hend hmore⟩
  obtain ⟨hvalid, rfl⟩ := Engine.build_eq_ok_iff.mp hbuild
  have hrules : (Engine.assembled p s).selected only ⊆ Engine.rulesFor p s :=
    fun _ => Engine.mem_of_mem_selected
  have hrest := Graph.withoutMatching_eq_ok_iff.mpr
    ⟨hown, rfl (a := g.without (Glob.anyHits p.exclude))⟩
  have hrest' := withoutMatching_withExcluded hrest hmore
  refine ⟨Engine.assembled (withExcluded more p) s, _,
    ((Engine.assembled p s).selected only).map (Rule.evaluate _),
    Engine.build_eq_ok_iff.mpr ⟨hvalid, rfl⟩,
    Engine.evaluateOnly_eq_ok_iff.mpr ⟨_, hrest, rfl⟩,
    Engine.evaluateOnly_eq_ok_iff.mpr ⟨_, hrest', rfl⟩, ?_, ?_, ?_, ?_⟩
  · rw [List.length_map, List.length_map]
  · intro i h h'
    have hr := hrules (List.getElem_mem (by simpa using h))
    rw [List.getElem_map, List.getElem_map]
    exact ⟨Engine.details_without_subperm hr _ _, Engine.hasViolation_without hr _ _⟩
  · exact fun o ho => Engine.avoids_of_mem_map_evaluate hrules ho
  · rw [← Graph.without_anyHits_append]
    exact fun o ho => Engine.avoids_of_mem_map_evaluate hrules ho

/-- A shop without tools, and then without rows: an element and most dependencies are gone. -/
theorem evaluateOnly_withExcluded_shop :
    let p := withExcluded ["tools.*"] .shop
    let e := Engine.assembled p .standard
    (∀ q ∈ p.exclude, Glob.IsPattern q) ∧ (∀ q ∈ ["*.Rows"], Glob.IsPattern q) ∧
      Engine.build p .standard = .ok e ∧
      ∃ e' os os', Engine.build (withExcluded ["*.Rows"] p) .standard = .ok e' ∧
        e.evaluateOnly .shop [] = .ok os ∧ e'.evaluateOnly .shop [] = .ok os' ∧
        os'.length = os.length ∧
        (∀ i (h : i < os.length) (h' : i < os'.length),
          os'[i].report.details.Subperm os[i].report.details ∧
          (os[i].hasViolation = false → os'[i].hasViolation = false)) ∧
        (∀ o ∈ os, o.Avoids (Glob.anyHits ["tools.*"])) ∧
        ∀ o ∈ os', o.Avoids (Glob.anyHits ["tools.*", "*.Rows"]) := by
  intro p e
  have hown : ∀ q ∈ p.exclude, Glob.IsPattern q := by
    intro q hq
    obtain rfl := List.mem_singleton.mp hq
    exact ⟨"tools.".toList.map .char ++ [.run], by cbv⟩
  have hmore : ∀ q ∈ ["*.Rows"], Glob.IsPattern q := by
    intro q hq
    obtain rfl := List.mem_singleton.mp hq
    exact ⟨.run :: ".Rows".toList.map .char, by cbv⟩
  have hbuild : Engine.build p .standard = .ok e :=
    Engine.build_eq_ok_iff.mpr ⟨Policy.problem?_eq_none_iff.mpr (by decide +kernel), rfl⟩
  obtain ⟨⟨e', os, os', he', hos, hos', hlength, hreports, havoids⟩, -⟩ :=
    evaluateOnly_withExcluded hbuild hown hmore .shop []
  refine ⟨hown, hmore, hbuild, e', os, os', he', hos, hos', hlength, fun i h h' => ?_, havoids⟩
  exact ⟨(hreports i h h').1 rfl, (hreports i h h').2 (by decide)⟩

end Command

end Strata
