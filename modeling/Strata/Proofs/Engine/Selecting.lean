import Mathlib.Tactic.Tauto
import Strata.Payload.Plain
import Strata.Proofs.Engine.Building

/-!
Two ways to select rules. Names select rules when an engine evaluates a graph, and settings select
them when it is built. Main statement: `evaluateOnly_eq_evaluate_disableAll`, to give names is the
same as to build the engine with all other rules disabled.
-/

namespace Strata

/-! ### Disabling rules -/

namespace Settings

/-- Settings in which a rule is not enabled. Its priority stays as it was. -/
def disable (s : Settings) (rule : String) : Settings :=
  { s with rules := s.rules.insert rule ⟨some false, s.priorityOf? rule⟩ }

/-- Settings in which several rules are not enabled. -/
def disableAll (s : Settings) (rules : List String) : Settings := rules.foldl disable s

variable {s : Settings}

lemma get?_disable (s : Settings) (rule name : String) :
    (s.disable rule).rules.get? name =
      if name = rule then some ⟨some false, s.priorityOf? name⟩ else s.rules.get? name := by
  by_cases h : name = rule
  · rw [if_pos h, h]
    exact Dictionary.get?_insert_self _ _ _
  · rw [if_neg h]
    exact Dictionary.get?_insert_of_ne h

lemma priorityOf?_disable (s : Settings) (rule name : String) :
    (s.disable rule).priorityOf? name = s.priorityOf? name := by
  rw [priorityOf?, get?_disable]
  split
  · rfl
  · rfl

lemma maxViolations_disableAll (s : Settings) (rules : List String) :
    (s.disableAll rules).maxViolations = s.maxViolations := by
  induction rules generalizing s with
  | nil => rfl
  | cons rule rules ih => exact ih (s.disable rule)

lemma parallel_disableAll (s : Settings) (rules : List String) :
    (s.disableAll rules).parallel = s.parallel := by
  induction rules generalizing s with
  | nil => rfl
  | cons rule rules ih => exact ih (s.disable rule)

/-- Of each rule that is disabled the priority stays, and of the others all that is set. -/
lemma get?_disableAll (s : Settings) (rules : List String) (name : String) :
    (s.disableAll rules).rules.get? name =
      if name ∈ rules then some ⟨some false, s.priorityOf? name⟩ else s.rules.get? name := by
  induction rules generalizing s with
  | nil => rfl
  | cons rule rules ih =>
      have hcons : s.disableAll (rule :: rules) = (s.disable rule).disableAll rules := rfl
      rw [hcons, ih, get?_disable, priorityOf?_disable]
      by_cases hrules : name ∈ rules
      · rw [if_pos hrules, if_pos (List.mem_cons_of_mem _ hrules)]
      · rw [if_neg hrules]
        by_cases hrule : name = rule
        · rw [if_pos hrule, if_pos (by simp [hrule])]
        · rw [if_neg hrule, if_neg (by simp [hrule, hrules])]

lemma isEnabled_disableAll {rules : List String} {name : String} (h : name ∈ rules) :
    (s.disableAll rules).isEnabled name = false := by
  rw [isEnabled, get?_disableAll, if_pos h]
  rfl

end Settings

namespace Engine

/-! ### Selecting rules -/

/-- The available rules that are not among some names. -/
def unselected (only : List String) : List String :=
  (available.map Prod.fst).filter fun name => !only.contains name

lemma agreeOn_disableAll (s : Settings) (only : List String) :
    s.AgreeOn only.contains (s.disableAll (unselected only)) where
  maxViolations_eq := s.maxViolations_disableAll _
  parallel_eq := s.parallel_disableAll _
  get?_eq name hname := by
    have hkept : name ∉ unselected only := by
      intro h
      have hmissing : name ∉ only := by simpa using (List.mem_filter.mp h).2
      exact hmissing (List.contains_iff_mem.mp hname)
    rw [Settings.get?_disableAll, if_neg hkept]

section

variable [Kinds] {p : Policy} {s : Settings}

/-- Whatever is built has a name that is listed. -/
lemma name_mem_available {r : Rule Graph} (h : r ∈ rulesFor p s) :
    r.name ∈ available.map Prod.fst := by
  rcases finds_of_mem_rulesFor h with ⟨hname, -⟩ | ⟨hname, -⟩ | ⟨hname, -⟩ <;>
    simp [available, hname]

/-- **Disabling selects**: with all other rules disabled, those of the given names are built and no
others. -/
lemma rulesFor_disableAll (p : Policy) (s : Settings) (only : List String) :
    rulesFor p (s.disableAll (unselected only)) =
      (rulesFor p s).filter fun r => only.contains r.name := by
  rw [← filter_rulesFor_eq p (agreeOn_disableAll s only)]
  refine (List.filter_eq_self.mpr fun r hr => ?_).symm
  by_contra hname
  have hdisabled : r.name ∈ unselected only :=
    List.mem_filter.mpr ⟨name_mem_available hr, by simpa using hname⟩
  have henabled := isEnabled_of_mem_rulesFor hr
  rw [Settings.isEnabled_disableAll hdisabled] at henabled
  cases henabled

/-- **Names and settings select alike.** To evaluate a graph with the rules of some names, at least
one, comes to the same as to build the engine with all other available rules disabled and to
evaluate the graph with all that it has: to the same outcomes, or to the same pattern that is none.
The order of the names and their repetition do not matter. -/
theorem evaluateOnly_eq_evaluate_disableAll {e : Engine} (hbuild : build p s = .ok e)
    {only : List String} (honly : only ≠ []) (g : Graph) :
    (∃ e', build p (s.disableAll (unselected only)) = .ok e' ∧
      e.evaluateOnly g only = e'.evaluate g) ∧
    ∀ only' : List String, (∀ name, name ∈ only' ↔ name ∈ only) →
      e.evaluateOnly g only' = e.evaluateOnly g only := by
  obtain ⟨hvalid, rfl⟩ := build_eq_ok_iff.mp hbuild
  refine ⟨⟨_, build_eq_ok_iff.mpr ⟨hvalid, rfl⟩, ?_⟩, fun only' hsame => ?_⟩
  · have hselected : (assembled p s).selected only =
        (assembled p (s.disableAll (unselected only))).selected [] := by
      rw [selected_of_ne_nil honly, selected_nil]
      exact (rulesFor_disableAll p s only).symm
    rw [evaluate, evaluateOnly, evaluateOnly, hselected]
    rfl
  · have honly' : only' ≠ [] := by
      obtain ⟨name, hname⟩ := List.exists_mem_of_ne_nil only honly
      exact List.ne_nil_of_mem ((hsame name).mpr hname)
    have hcontains : ∀ name, only'.contains name = only.contains name := by
      intro name
      rw [Bool.eq_iff_iff, List.contains_iff_mem, List.contains_iff_mem, hsame]
    have hselected : (assembled p s).selected only' = (assembled p s).selected only := by
      rw [selected_of_ne_nil honly', selected_of_ne_nil honly]
      exact List.filter_congr fun r _ => hcontains r.name
    rw [evaluateOnly, evaluateOnly, hselected]

end

/-- Of two names one is not known and the other is given twice, and the settings do without another
rule already. -/
theorem evaluateOnly_eq_evaluate_disableAll_shop :
    let e := assembled .shop .lenient
    let only := ["naming", "cycles", "naming"]
    build .shop .lenient = .ok e ∧ only ≠ [] ∧
      (∀ name, name ∈ ["cycles", "naming"] ↔ name ∈ only) ∧
      (∃ e', build .shop (Settings.lenient.disableAll
          ["layer-dependencies", "dependency-pattern"]) = .ok e' ∧
        e.evaluateOnly .shop only = e'.evaluate .shop) ∧
      e.evaluateOnly .shop ["cycles", "naming"] = e.evaluateOnly .shop only := by
  intro e only
  have hbuild : build .shop .lenient = .ok e := build_shop
  have honly : only ≠ [] := List.cons_ne_nil _ _
  have hsame : ∀ name, name ∈ ["cycles", "naming"] ↔ name ∈ only := by
    intro name
    simp only [only, List.mem_cons, List.not_mem_nil, or_false]
    tauto
  have hothers : unselected only = ["layer-dependencies", "dependency-pattern"] := by decide
  obtain ⟨hdisabled, horder⟩ := evaluateOnly_eq_evaluate_disableAll hbuild honly .shop
  rw [hothers] at hdisabled
  exact ⟨hbuild, honly, hsame, hdisabled, horder _ hsame⟩

end Engine

end Strata
