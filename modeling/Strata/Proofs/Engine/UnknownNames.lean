import Strata.Payload.Plain
import Strata.Proofs.Engine.Selecting
import Strata.Proofs.Report.Listing

/-!
Names that no rule has. Whoever gives them is told that they are ignored, but a list of such names
alone is not a list without names: it selects no rule, and not all rules. Main statement:
`evaluateOnly_eq_knownNames_iff`, when it makes no difference to leave these names out.
-/

namespace Strata.Engine

/-- The names among some that a rule can have. -/
def knownNames (only : List String) : List String :=
  only.filter (available.map Prod.fst).contains

section

variable [Kinds] {p : Policy} {s : Settings} {only : List String}

lemma contains_knownNames {r : Rule Graph} (hr : r ∈ rulesFor p s) (only : List String) :
    (knownNames only).contains r.name = only.contains r.name := by
  rw [Bool.eq_iff_iff, List.contains_iff_mem, List.contains_iff_mem, knownNames, List.mem_filter,
    List.contains_iff_mem, and_iff_left (name_mem_available hr)]

/-- As long as one name is left, it does not matter whether the others are there. -/
lemma selected_knownNames (honly : knownNames only ≠ []) :
    (assembled p s).selected (knownNames only) = (assembled p s).selected only := by
  have hne : only ≠ [] := by
    rintro rfl
    exact honly rfl
  rw [selected_of_ne_nil honly, selected_of_ne_nil hne]
  exact List.filter_congr fun r hr => contains_knownNames hr only

/-- If no rule can have one of the names, no rule is selected. -/
lemma selected_eq_nil (hne : only ≠ []) (hnone : knownNames only = []) :
    (assembled p s).selected only = [] := by
  rw [selected_of_ne_nil hne, List.filter_eq_nil_iff]
  intro r hr hname
  rw [← contains_knownNames hr, hnone] at hname
  cases hname

/-- **When names that no rule has make a difference**: if they are all that is given, there are
rules, and the graph can be evaluated at all. Then no rule is evaluated, and without these names all
rules are. -/
theorem evaluateOnly_eq_knownNames_iff {e : Engine} (hbuild : build p s = .ok e) (g : Graph)
    (only : List String) :
    (e.evaluateOnly g only = e.evaluateOnly g (knownNames only) ↔
      only = [] ∨ knownNames only ≠ [] ∨ e.rules = [] ∨
        ∃ bad, g.withoutMatching e.exclude = .error bad) ∧
    (only ≠ [] → knownNames only = [] → ∀ rest, g.withoutMatching e.exclude = .ok rest →
      e.evaluateOnly g only = .ok []) := by
  obtain ⟨-, rfl⟩ := build_eq_ok_iff.mp hbuild
  have hnothing : only ≠ [] → knownNames only = [] → ∀ rest,
      g.withoutMatching (assembled p s).exclude = .ok rest →
        (assembled p s).evaluateOnly g only = .ok [] := by
    intro hne hnone rest hrest
    exact evaluateOnly_eq_ok_iff.mpr ⟨rest, hrest, by rw [selected_eq_nil hne hnone, List.map_nil]⟩
  refine ⟨⟨fun heq => ?_, fun hcases => ?_⟩, hnothing⟩
  · by_contra hall
    obtain ⟨hne, hnone, hrules, hok⟩ : only ≠ [] ∧ knownNames only = [] ∧
        (assembled p s).rules ≠ [] ∧
        ¬ ∃ bad, g.withoutMatching (assembled p s).exclude = .error bad := by
      simpa only [not_or, not_not] using hall
    cases hrest : g.withoutMatching (assembled p s).exclude with
    | error bad => exact hok ⟨bad, hrest⟩
    | ok rest =>
        rw [hnothing hne hnone rest hrest, hnone] at heq
        obtain ⟨rest', -, hevaluated⟩ := evaluateOnly_eq_ok_iff.mp heq.symm
        rw [selected_nil] at hevaluated
        exact hrules (List.map_eq_nil_iff.mp hevaluated.symm)
  · rcases hcases with rfl | hknown | hrules | ⟨bad, hbad⟩
    · rfl
    · rw [evaluateOnly, evaluateOnly, selected_knownNames hknown]
    · have hselected : ∀ names, (assembled p s).selected names = [] := by
        intro names
        rw [selected, hrules, List.filter_nil]
      rw [evaluateOnly, evaluateOnly, hselected, hselected]
    · rw [evaluateOnly, evaluateOnly, hbad]
      rfl

end

/-- Besides the name that no rule has there is one that a rule has. -/
theorem evaluateOnly_eq_knownNames_iff_shop :
    let e := assembled .shop .standard
    build .shop .standard = .ok e ∧ knownNames ["cycles", "naming"] = ["naming"] ∧
      e.evaluateOnly .shop ["cycles", "naming"] = e.evaluateOnly .shop ["naming"] := by
  intro e
  have hknown : knownNames ["cycles", "naming"] = ["naming"] := by decide
  obtain ⟨hiff, -⟩ := evaluateOnly_eq_knownNames_iff build_shop .shop ["cycles", "naming"]
  rw [hknown] at hiff
  exact ⟨build_shop, hknown, hiff.mpr (.inr (.inl (List.cons_ne_nil _ _)))⟩

/-- A name that no rule has, and no other: the check passes although it fails without the name. -/
theorem evaluateOnly_cycles_shop :
    let s := { Settings.standard with maxViolations := some 1 }
    let e := assembled .shop s
    build .shop s = .ok e ∧ knownNames ["cycles"] = [] ∧
      unknownNames ["cycles"] = [.warn "Unknown rule 'cycles' ignored"] ∧
      e.evaluateOnly .shop ["cycles"] = .ok [] ∧ (Verdict.mk [] .low).passes = true ∧
      ∃ os, e.evaluateOnly .shop (knownNames ["cycles"]) = .ok os ∧
        (Verdict.mk os .low).passes = false := by
  intro s e
  refine ⟨build_shop, by decide, by decide, rfl, rfl, _, evaluateOnly_shop, ?_⟩
  obtain ⟨r, hr, hviolated⟩ := exists_violated_shop
  exact Verdict.passes_eq_false_iff.mpr
    ⟨_, List.mem_map_of_mem hr, Nat.zero_le _, hviolated⟩

end Strata.Engine
