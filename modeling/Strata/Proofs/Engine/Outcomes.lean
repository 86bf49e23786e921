import Strata.Engine
import Strata.Proofs.Rule.LayerDependencies

/-!
When an engine is built and when it evaluates a graph. Building fails on a policy that makes no
sense, evaluation on a pattern that is none, and nothing else can go wrong (`build_eq_ok_iff`,
`evaluateOnly_eq_ok_iff`).
-/

namespace Strata.Engine

variable [Kinds]

/-- The engine for a policy and settings, if the policy makes sense. -/
def assembled (p : Policy) (s : Settings) : Engine := ⟨rulesFor p s, p.exclude⟩

lemma build_eq_ok_iff {p : Policy} {s : Settings} {e : Engine} :
    build p s = .ok e ↔ p.problem? = none ∧ e = assembled p s := by
  rw [build, assembled]
  cases p.problem? with
  | none => simpa using eq_comm
  | some problem => simp

/-- Without names all rules are selected. -/
lemma selected_nil (e : Engine) : e.selected [] = e.rules := List.filter_eq_self.mpr fun _ _ => rfl

lemma selected_of_ne_nil {only : List String} (h : only ≠ []) (e : Engine) :
    e.selected only = e.rules.filter fun r => only.contains r.name := by
  have hempty : only.isEmpty = false := by simpa using h
  simp only [selected, hempty, Bool.false_or]

lemma evaluateOnly_eq_ok_iff {e : Engine} {g : Graph} {only : List String} {os : List Outcome} :
    e.evaluateOnly g only = .ok os ↔
      ∃ rest, g.withoutMatching e.exclude = .ok rest ∧
        os = (e.selected only).map (Rule.evaluate rest) := by
  rw [evaluateOnly]
  cases g.withoutMatching e.exclude with
  | ok rest =>
      show Except.ok ((e.selected only).map (Rule.evaluate rest)) = Except.ok os ↔ _
      simpa using eq_comm
  | error bad => simp [bind, Except.bind]

/-! ### Engines for the shop -/

variable {s : Settings}

/-- The shop makes sense, so it has an engine whatever the settings are. -/
lemma build_shop : build .shop s = .ok (assembled .shop s) :=
  build_eq_ok_iff.mpr ⟨Policy.problem?_eq_none_iff.mpr (by decide +kernel), rfl⟩

lemma evaluateOnly_shop :
    (assembled .shop s).evaluateOnly .shop [] =
      .ok ((assembled .shop s).rules.map (Rule.evaluate .shop)) :=
  evaluateOnly_eq_ok_iff.mpr ⟨.shop, rfl, by rw [selected_nil]⟩

end Strata.Engine
