import Strata.Program
import Strata.Proofs.Engine.Outcomes
import Strata.Proofs.Session

/-!
When a check comes to a verdict, and to which. The texts of the settings and of the graph decide,
wherever they were found (`ending_check_eq_ok_iff`): both can be read, the policy makes sense, and
all patterns are patterns.
-/

namespace Strata

namespace Command

variable [Kinds]

lemma judge_eq_ok_iff {s : Settings} {p : Policy} {g : Graph} {only : List String} {v : Verdict} :
    judge s p g only = .ok v ↔
      ∃ (e : Engine) (rest : Graph), Engine.build p s = .ok e ∧
        g.withoutMatching e.exclude = .ok rest ∧
        v = ⟨(e.selected only).map (Rule.evaluate rest), s.threshold⟩ := by
  simp only [judge, bind_eq_ok_iff, mapError_eq_ok_iff, Engine.evaluateOnly_eq_ok_iff]
  constructor
  · rintro ⟨e, he, -, ⟨rest, hrest, rfl⟩, hv⟩
    exact ⟨e, rest, he, hrest, (Except.ok.inj hv).symm⟩
  · rintro ⟨e, rest, he, hrest, rfl⟩
    exact ⟨e, he, _, ⟨rest, hrest, rfl⟩, rfl⟩

/-- The texts that a check loads: that of the settings, and that of the graph, which is given or
named by the policy in the settings. -/
def Loads (files : Files Id) (o : CheckOptions) (source : Source) (project config graph : String) :
    Prop :=
  (∃ path, source.path? = some path ∧ (files.read path).run = .ok config) ∧
    ∃ p path, Policy.parse config = .ok p ∧ graphPath? o p source project = some path ∧
      (files.read path).run = .ok graph

/-- A check comes to the verdict to which judging comes. -/
lemma ends_checkGraph {files : Files Id} {o : CheckOptions} {source : Source} {project : String}
    {before : List Progress} {v : Verdict} :
    Session.Ends (checkGraph files o source project) before v ↔
      ∃ config graph s p g, Loads files o source project config graph ∧
        Settings.parse config = .ok s ∧ Policy.parse config = .ok p ∧ Graph.parse graph = .ok g ∧
        judge s (withExcluded o.exclude p) g (selection o) = .ok v := by
  rw [checkGraph]
  cases hpath : source.path? with
  | none => simp [Session.ends_throw, Loads, hpath]
  | some path =>
      refine Session.ends_ite_tell_bind fun before => ?_
      simp only [Session.ends_bind, Session.ends_load]
      constructor
      · rintro ⟨s, ⟨config, hconfig, hs⟩, p, ⟨config', hconfig', hp⟩, h⟩
        obtain rfl : config = config' := Except.ok.inj (hconfig.symm.trans hconfig')
        cases hgraphPath : graphPath? o p source project with
        | none =>
            rw [hgraphPath] at h
            exact absurd h Session.ends_throw
        | some graphPath =>
            rw [hgraphPath] at h
            simp only [Session.ends_bind, Session.ends_load, Session.ends_liftExcept,
              Session.ends_pure] at h
            obtain ⟨g, ⟨graph, hgraph, hg⟩, -, -, -, -, v', hv, -, -, rfl⟩ := h
            exact ⟨config, graph, s, p, g,
              ⟨⟨path, hpath, hconfig⟩, p, graphPath, hp, hgraphPath, hgraph⟩, hs, hp, hg, hv⟩
      · rintro ⟨config, graph, s, p, g, ⟨⟨path', hpath', hconfig⟩, p', graphPath, hp', hgraphPath,
          hgraph⟩, hs, hp, hg, hv⟩
        obtain rfl : path = path' := Option.some.inj (hpath.symm.trans hpath')
        obtain rfl : p = p' := Except.ok.inj (hp.symm.trans hp')
        refine ⟨s, ⟨config, hconfig, hs⟩, p, ⟨config, hconfig, hp⟩, ?_⟩
        rw [hgraphPath]
        simp only [Session.ends_bind, Session.ends_load, Session.ends_liftExcept,
          Session.ends_pure]
        exact ⟨g, ⟨graph, hgraph, hg⟩, (), rfl, (), rfl, v, hv, (), rfl, rfl⟩

end Command

namespace Program

/-- How a command ends on files that stay as they are: with what it prints and whether it has
passed, or with a failure. -/
def ending (files : Files Id) (env : Environment) (i : Invocation) :
    Except Failure (String × Bool) := ((perform files env i).run.run []).run.1

/-- Where the settings for a command come from. -/
def sourceOf (files : Files Id) (env : Environment) (i : Invocation) : Source :=
  (Source.find files "." i.config env.sharedDirectory?).run

lemma ending_check_eq_ok_iff {files : Files Id} {env : Environment} {i : Invocation}
    {o : CheckOptions} (hi : i.command = .check o) {output : String} {passed : Bool} :
    ending files env i = .ok (output, passed) ↔
      ∃ config graph s p g v, Command.Loads files o (sourceOf files env i) "." config graph ∧
        Settings.parse config = .ok s ∧ Policy.parse config = .ok p ∧ Graph.parse graph = .ok g ∧
        Command.judge s (Command.withExcluded o.exclude p) g (Command.selection o) = .ok v ∧
        output = Listing.render v.reports o.format ∧ passed = v.passes := by
  have hends : ending files env i = .ok (output, passed) ↔
      Session.Ends (perform files env i) [] (output, passed) := Iff.rfl
  rw [hends, perform, hi]
  refine Session.ends_liftM_bind.trans (Session.ends_tell_bind.trans ?_)
  rw [Session.ends_bind]
  simp only [Command.ends_checkGraph, Session.ends_pure]
  constructor
  · rintro ⟨v, ⟨config, graph, s, p, g, hloads, hs, hp, hg, hv⟩, heq⟩
    cases heq
    exact ⟨config, graph, s, p, g, v, hloads, hs, hp, hg, hv, rfl, rfl⟩
  · rintro ⟨config, graph, s, p, g, v, hloads, hs, hp, hg, hv, rfl, rfl⟩
    exact ⟨v, ⟨config, graph, s, p, g, hloads, hs, hp, hg, hv⟩, rfl⟩

end Program

end Strata
