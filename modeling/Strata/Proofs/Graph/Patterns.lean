import Mathlib.Tactic.Tauto
import Strata.Proofs.Glob.Matching
import Strata.Proofs.Graph.Exclusion

/-!
Leaving out by lists of patterns. The first text that is no pattern is what a list fails with, and
a list of patterns leaves out what any of them describes. Main statement: `withoutMatching_append`,
two lists one after the other do what they do as one list, so only the set of patterns matters.
-/

namespace Strata

namespace Glob

lemma hits_eq_true_iff {text name : String} : hits text name = true ↔ Describes text name := by
  rw [hits, Describes]
  cases parse text with
  | error fault => simp
  | ok pieces => simp [accepts_eq_true_iff]

instance (text name : String) : Decidable (Describes text name) :=
  decidable_of_iff _ hits_eq_true_iff

lemma anyHits_eq_true_iff {patterns : List String} {name : String} :
    anyHits patterns name = true ↔ ∃ p ∈ patterns, Describes p name := by
  simp only [anyHits, List.any_eq_true, hits_eq_true_iff]

/-- Which patterns there are decides what they match, not their order or how often they occur. -/
lemma anyHits_congr {ps qs : List String} (h : ∀ p, p ∈ qs ↔ p ∈ ps) : anyHits qs = anyHits ps := by
  funext name
  rw [Bool.eq_iff_iff, anyHits_eq_true_iff, anyHits_eq_true_iff]
  simp only [h]

/-- The first of some texts that is no pattern, and why it is none. -/
def IsFirstBad (patterns : List String) (bad : BadPattern) : Prop :=
  ∃ before after, patterns = before ++ bad.pattern :: after ∧ (∀ p ∈ before, IsPattern p) ∧
    parse bad.pattern = .error bad.fault

lemma IsFirstBad.append {ps : List String} {bad : BadPattern} (h : IsFirstBad ps bad)
    (qs : List String) : IsFirstBad (ps ++ qs) bad := by
  obtain ⟨before, after, rfl, hbefore, hbad⟩ := h
  exact ⟨before, after ++ qs, by simp, hbefore, hbad⟩

lemma IsFirstBad.append_left {ps qs : List String} {bad : BadPattern} (h : IsFirstBad qs bad)
    (hps : ∀ p ∈ ps, IsPattern p) : IsFirstBad (ps ++ qs) bad := by
  obtain ⟨before, after, rfl, hbefore, hbad⟩ := h
  exact ⟨ps ++ before, after, by simp, List.forall_mem_append.mpr ⟨hps, hbefore⟩, hbad⟩

lemma parseAll_eq_error_iff {patterns : List String} {bad : BadPattern} :
    parseAll patterns = .error bad ↔ IsFirstBad patterns bad := by
  rw [parseAll, mapM_eq_error_iff]
  constructor
  · rintro ⟨before, p, after, rfl, hbefore, hp⟩
    have hpatterns : ∀ q ∈ before, IsPattern q := by
      intro q hq
      obtain ⟨pieces, hpieces⟩ := hbefore q hq
      cases hparse : parse q with
      | ok pieces' => exact ⟨pieces', hparse⟩
      | error fault => simp [hparse] at hpieces
    cases hparse : parse p with
    | ok pieces => simp [hparse] at hp
    | error fault =>
        simp only [hparse, Except.error.injEq] at hp
        subst hp
        exact ⟨before, after, rfl, hpatterns, hparse⟩
  · rintro ⟨before, after, rfl, hbefore, hparse⟩
    refine ⟨before, bad.pattern, after, rfl, fun q hq => ?_, by simp [hparse]⟩
    obtain ⟨pieces, hpieces⟩ := hbefore q hq
    exact ⟨pieces, by simp [hpieces]⟩

lemma exists_parseAll_eq_error_iff {patterns : List String} :
    (∃ bad, parseAll patterns = .error bad) ↔ ∃ p ∈ patterns, ¬ IsPattern p := by
  have hok : (∃ globs, parseAll patterns = .ok globs) ↔ _ := exists_parseAll_eq_ok_iff
  cases h : parseAll patterns with
  | ok globs =>
      have hall := hok.mp ⟨globs, h⟩
      simpa using hall
  | error bad =>
      have hnot := mt hok.mpr (by simp [h])
      simpa using hnot

end Glob

namespace Graph

variable {g rest : Graph} {patterns : List String}

lemma withoutMatching_eq_error_iff {bad : BadPattern} :
    g.withoutMatching patterns = .error bad ↔ Glob.IsFirstBad patterns bad := by
  rw [← Glob.parseAll_eq_error_iff, withoutMatching, bind_eq_error_iff]
  simp [pure, Except.pure]

/-- A graph is what some patterns leave of another one: the elements that none of them describes,
and the dependencies of which none describes either end, in the same order and as often as before. -/
structure IsRest (patterns : List String) (g rest : Graph) : Prop where
  elements_eq : rest.elements = g.elements.filter fun e =>
    ∀ p ∈ patterns, ¬ Glob.Describes p e.name
  dependencies_eq : rest.dependencies = g.dependencies.filter fun d =>
    ∀ p ∈ patterns, ¬ Glob.Describes p d.origin ∧ ¬ Glob.Describes p d.target

lemma isRest_iff : IsRest patterns g rest ↔ rest = g.without (Glob.anyHits patterns) := by
  have hname : ∀ name, (!Glob.anyHits patterns name) =
      decide (∀ p ∈ patterns, ¬ Glob.Describes p name) := by
    intro name
    rw [Bool.eq_iff_iff, Bool.not_eq_true', ← Bool.not_eq_true, Glob.anyHits_eq_true_iff]
    simp
  have helements : (g.without (Glob.anyHits patterns)).elements =
      g.elements.filter fun e => ∀ p ∈ patterns, ¬ Glob.Describes p e.name :=
    List.filter_congr fun e _ => hname e.name
  have hdependencies : (g.without (Glob.anyHits patterns)).dependencies =
      g.dependencies.filter fun d =>
        ∀ p ∈ patterns, ¬ Glob.Describes p d.origin ∧ ¬ Glob.Describes p d.target := by
    refine List.filter_congr fun d _ => ?_
    rw [hname, hname, ← Bool.decide_and]
    simp only [← forall₂_and]
  constructor
  · rintro ⟨he, hd⟩
    cases rest
    rw [Graph.mk.injEq]
    exact ⟨he.trans helements.symm, hd.trans hdependencies.symm⟩
  · rintro rfl
    exact ⟨helements, hdependencies⟩

/-! ### Several lists of patterns -/

/-- Two lists one after the other do what they do as one list, and fail with the same text. -/
lemma withoutMatching_bind (g : Graph) (ps qs : List String) :
    (g.withoutMatching ps >>= fun rest => rest.withoutMatching qs) =
      g.withoutMatching (ps ++ qs) := by
  cases h : g.withoutMatching ps with
  | error bad =>
      have hbad := (withoutMatching_eq_error_iff.mp h).append qs
      exact (withoutMatching_eq_error_iff.mpr hbad).symm
  | ok rest =>
      obtain ⟨hps, rfl⟩ := withoutMatching_eq_ok_iff.mp h
      show (g.without (Glob.anyHits ps)).withoutMatching qs = _
      cases h' : (g.without (Glob.anyHits ps)).withoutMatching qs with
      | error bad =>
          have hbad := (withoutMatching_eq_error_iff.mp h').append_left hps
          exact (withoutMatching_eq_error_iff.mpr hbad).symm
      | ok rest' =>
          obtain ⟨hqs, rfl⟩ := withoutMatching_eq_ok_iff.mp h'
          exact (withoutMatching_eq_ok_iff.mpr
            ⟨List.forall_mem_append.mpr ⟨hps, hqs⟩, (g.without_anyHits_append ps qs).symm⟩).symm

/-- Lists of the same patterns leave the same. -/
lemma withoutMatching_congr {ps qs : List String} (h : ∀ p, p ∈ qs ↔ p ∈ ps)
    (hps : ∀ p ∈ ps, Glob.IsPattern p) : g.withoutMatching qs = g.withoutMatching ps := by
  have hqs : ∀ p ∈ qs, Glob.IsPattern p := fun p hp => hps p ((h p).mp hp)
  rw [withoutMatching_eq_ok_iff.mpr ⟨hps, rfl⟩, withoutMatching_eq_ok_iff.mpr ⟨hqs, rfl⟩,
    Glob.anyHits_congr h]

/-- To leave out the same once more changes nothing. -/
lemma withoutMatching_twice (g : Graph) (ps : List String) :
    (g.withoutMatching ps >>= fun rest => rest.withoutMatching ps) = g.withoutMatching ps := by
  cases h : g.withoutMatching ps with
  | error bad => rfl
  | ok rest =>
      obtain ⟨hps, -⟩ := withoutMatching_eq_ok_iff.mp h
      calc rest.withoutMatching ps
          = g.withoutMatching ps >>= fun rest => rest.withoutMatching ps := by rw [h]; rfl
        _ = g.withoutMatching (ps ++ ps) := g.withoutMatching_bind ps ps
        _ = g.withoutMatching ps := withoutMatching_congr (by simp) hps
        _ = .ok rest := h

/-- **Leaving out by patterns.** It fails iff some text is no pattern, whatever the graph, and then
with the first such text; otherwise it leaves what no pattern describes. Two lists one after the
other do what they do as one list, to the text that they fail with. So of lists of patterns only the
set matters, and to leave out the same twice is to do so once. -/
theorem withoutMatching_append (g : Graph) (ps qs : List String) :
    ((∃ bad, g.withoutMatching ps = .error bad) ↔ ∃ p ∈ ps, ¬ Glob.IsPattern p) ∧
      (∀ bad, g.withoutMatching ps = .error bad ↔ Glob.IsFirstBad ps bad) ∧
      (∀ rest, g.withoutMatching ps = .ok rest ↔
        (∀ p ∈ ps, Glob.IsPattern p) ∧ IsRest ps g rest) ∧
      (g.withoutMatching ps >>= fun rest => rest.withoutMatching qs) =
        g.withoutMatching (ps ++ qs) ∧
      ((∀ p, p ∈ qs ↔ p ∈ ps) → (∀ p ∈ ps, Glob.IsPattern p) →
        g.withoutMatching qs = g.withoutMatching ps) ∧
      (g.withoutMatching ps >>= fun rest => rest.withoutMatching ps) = g.withoutMatching ps := by
  refine ⟨?_, fun bad => withoutMatching_eq_error_iff, fun rest => ?_, g.withoutMatching_bind ps qs,
    withoutMatching_congr, g.withoutMatching_twice ps⟩
  · rw [← Glob.exists_parseAll_eq_error_iff]
    simp only [withoutMatching_eq_error_iff, Glob.parseAll_eq_error_iff]
  · rw [isRest_iff, withoutMatching_eq_ok_iff]

/-- The same patterns in another order, and a list with two texts that are none. -/
theorem withoutMatching_append_generated :
    let g : Graph := ⟨[⟨"gen.Dto", .classType⟩, ⟨"app.Cart", .classType⟩],
      [⟨"app.Cart", "gen.Dto", .fieldType, none, none, none⟩]⟩
    let ps := ["gen.*", "*.Rows"]
    let qs := ["*.Rows", "gen.*", "*.Rows"]
    (∀ p, p ∈ qs ↔ p ∈ ps) ∧ (∀ p ∈ ps, Glob.IsPattern p) ∧
      g.withoutMatching qs = g.withoutMatching ps ∧
      g.withoutMatching (ps ++ ["a**", "["]) = .error ⟨"a**", ⟨0, .brokenComponent⟩⟩ := by
  intro g ps qs
  have hsame : ∀ p, p ∈ qs ↔ p ∈ ps := by
    intro p
    simp only [qs, ps, List.mem_cons, List.not_mem_nil, or_false]
    tauto
  have hps : ∀ p ∈ ps, Glob.IsPattern p := by
    simp only [ps, List.forall_mem_cons]
    exact ⟨⟨"gen.".toList.map .char ++ [.run], by cbv⟩, ⟨.run :: ".Rows".toList.map .char, by cbv⟩,
      by simp⟩
  have hbad : Glob.IsFirstBad (ps ++ ["a**", "["]) ⟨"a**", ⟨0, .brokenComponent⟩⟩ :=
    ⟨ps, ["["], rfl, hps, by cbv⟩
  obtain ⟨-, -, -, -, hcongr, -⟩ := withoutMatching_append g ps qs
  obtain ⟨-, hfirst, -⟩ := withoutMatching_append g (ps ++ ["a**", "["]) []
  exact ⟨hsame, hps, hcongr hsame hps, (hfirst _).mpr hbad⟩

end Graph

end Strata
