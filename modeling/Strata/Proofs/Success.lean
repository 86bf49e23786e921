import Mathlib.Data.List.Forall2
import Mathlib.Tactic.Lemma

/-!
When steps that may fail succeed: each of them does, and the later ones take up what the earlier
ones have come to. They fail with the first fault there is, and the later ones are not made.
-/

namespace Strata

variable {ε ε' α β : Type}

lemma bind_eq_ok_iff {x : Except ε α} {f : α → Except ε β} {b : β} :
    x >>= f = .ok b ↔ ∃ a, x = .ok a ∧ f a = .ok b := by
  cases x with
  | error fault => simp [bind, Except.bind]
  | ok a => simp [bind, Except.bind]

lemma bind_eq_error_iff {x : Except ε α} {f : α → Except ε β} {fault : ε} :
    x >>= f = .error fault ↔ x = .error fault ∨ ∃ a, x = .ok a ∧ f a = .error fault := by
  cases x with
  | error fault' => simp [bind, Except.bind]
  | ok a => simp [bind, Except.bind]

lemma mapError_eq_ok_iff {x : Except ε α} {f : ε → ε'} {a : α} :
    x.mapError f = .ok a ↔ x = .ok a := by
  cases x <;> simp [Except.mapError]

/-- A step for each entry of a list succeeds iff each single one does. -/
lemma mapM_eq_ok_iff {f : α → Except ε β} {as : List α} {bs : List β} :
    as.mapM f = .ok bs ↔ List.Forall₂ (fun a b => f a = .ok b) as bs := by
  induction as generalizing bs with
  | nil =>
      rw [List.mapM_nil, List.forall₂_nil_left_iff]
      simp [pure, Except.pure, eq_comm]
  | cons a as ih =>
      rw [List.mapM_cons, bind_eq_ok_iff, List.forall₂_cons_left_iff]
      simp only [bind_eq_ok_iff, ih]
      constructor
      · rintro ⟨b, hb, bs', hbs', heq⟩
        exact ⟨b, bs', hb, hbs', (Except.ok.inj heq).symm⟩
      · rintro ⟨b, bs', hb, hbs', rfl⟩
        exact ⟨b, hb, bs', hbs', rfl⟩

/-- A step for each entry of a list fails with the fault of the first that does. -/
lemma mapM_eq_error_iff {f : α → Except ε β} {as : List α} {fault : ε} :
    as.mapM f = .error fault ↔
      ∃ before a after, as = before ++ a :: after ∧ (∀ b ∈ before, ∃ x, f b = .ok x) ∧
        f a = .error fault := by
  induction as with
  | nil => simp [pure, Except.pure]
  | cons a as ih =>
      rw [List.mapM_cons, bind_eq_error_iff]
      constructor
      · rintro (ha | ⟨x, hx, hrest⟩)
        · exact ⟨[], a, as, rfl, by simp, ha⟩
        · obtain hrest | ⟨xs, -, hpure⟩ := bind_eq_error_iff.mp hrest
          · obtain ⟨before, b, after, rfl, hbefore, hb⟩ := ih.mp hrest
            exact ⟨a :: before, b, after, rfl, List.forall_mem_cons.mpr ⟨⟨x, hx⟩, hbefore⟩, hb⟩
          · cases hpure
      · rintro ⟨before, b, after, heq, hbefore, hb⟩
        cases before with
        | nil =>
            obtain ⟨rfl, rfl⟩ := List.cons.inj heq
            exact .inl hb
        | cons a' before =>
            obtain ⟨rfl, rfl⟩ := List.cons.inj heq
            obtain ⟨⟨x, hx⟩, hbefore⟩ := List.forall_mem_cons.mp hbefore
            refine .inr ⟨x, hx, bind_eq_error_iff.mpr (.inl ?_)⟩
            exact ih.mpr ⟨before, b, after, rfl, hbefore, hb⟩

end Strata
