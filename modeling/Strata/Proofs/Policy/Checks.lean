import Mathlib.Logic.Basic
import Strata.Proofs.Policy.Sense

/-!
What single checks of a policy find: in a list of names, in what is said about the dependencies of
one layer, and in one constraint. When there is nothing to find is written down as one would tell it
(`EntryMakesSense`, `ConstraintMakesSense`), and so is what comes first if there is something
(`IsEntryProblem`, `IsConstraintProblem`), without looking at how the checks go about it.
-/

namespace Strata

/-! ### Names that are not known and names that are repeated -/

/-- A name is the first one of a list that is not among the known names. -/
def IsFirstUnknown (known names : List String) (n : String) : Prop :=
  ∃ before after, names = before ++ n :: after ∧ (∀ m ∈ before, m ∈ known) ∧ n ∉ known

/-- A name is the first one of a list that stood there before. -/
def IsFirstRepeated (names : List String) (n : String) : Prop :=
  ∃ before after, names = before ++ n :: after ∧ before.Nodup ∧ n ∈ before

namespace Policy

/-- What is said about the dependencies of a layer makes sense: it is a layer, and those that it may
depend on are other layers. -/
structure EntryMakesSense (names : List String) (e : String × List String) : Prop where
  key_mem : e.1 ∈ names
  mem_of_mem : ∀ d ∈ e.2, d ∈ names
  key_not_mem : e.1 ∉ e.2

/-- What is wrong first with what is said about the dependencies of a layer. -/
inductive IsEntryProblem (names : List String) (e : String × List String) : Problem → Prop where
  | unknownLayer (hkey : e.1 ∉ names) : IsEntryProblem names e (.unknownLayer e.1)
  | unknownDependency {d : String} (hkey : e.1 ∈ names) (hd : IsFirstUnknown names e.2 d) :
      IsEntryProblem names e (.unknownDependency e.1 d)
  | selfDependency (hkey : e.1 ∈ names) (hmem : ∀ d ∈ e.2, d ∈ names) (hself : e.1 ∈ e.2) :
      IsEntryProblem names e (.selfDependency e.1)

section Entries

variable {names : List String} {e : String × List String}

end Entries

end Policy

/-! ### One constraint -/

/-- A constraint has what its kind needs. -/
inductive Constraint.IsShaped (c : Constraint) : Prop where
  | onTargets (hkind : c.kind = noDependencyPattern) (hpattern : c.pattern ≠ "")
  | onNames (hkind : c.kind = namingRule) (htargets : c.targetMatches ≠ "")
      (hnames : c.nameMustMatch ≠ "" ∨ c.nameMustNotMatch ≠ "")

namespace Policy

/-- A constraint makes sense: it has what its kind needs, and the layers that it is about exist. -/
structure ConstraintMakesSense (names : List String) (c : Constraint) : Prop where
  isShaped : c.IsShaped
  mem_of_mem : ∀ layer ∈ c.inLayers, layer ∈ names

/-- What is wrong with the fields of a constraint, given its index. -/
inductive IsShapeProblem (index : Nat) (c : Constraint) : Problem → Prop where
  | noPattern (hkind : c.kind = Constraint.noDependencyPattern) (hpattern : c.pattern = "") :
      IsShapeProblem index c (.noPattern index)
  | noNaming (hkind : c.kind = Constraint.namingRule)
      (hlacks : c.targetMatches = "" ∨ c.nameMustMatch = "" ∧ c.nameMustNotMatch = "") :
      IsShapeProblem index c (.noNaming index)
  | unknownKind (hpattern : c.kind ≠ Constraint.noDependencyPattern)
      (hnaming : c.kind ≠ Constraint.namingRule) :
      IsShapeProblem index c (.unknownKind index c.kind)

/-- What is wrong first with a constraint, given its index. -/
inductive IsConstraintProblem (names : List String) (index : Nat) (c : Constraint) :
    Problem → Prop where
  | shape {problem : Problem} (h : IsShapeProblem index c problem) :
      IsConstraintProblem names index c problem
  | unknownLayer {layer : String} (hshape : c.IsShaped)
      (hlayer : IsFirstUnknown names c.inLayers layer) :
      IsConstraintProblem names index c (.unknownConstraintLayer index layer)

section Constraints

variable {names : List String} {index : Nat} {c : Constraint} {problem : Problem}

lemma noDependencyPattern_ne_namingRule :
    Constraint.noDependencyPattern ≠ Constraint.namingRule := by
  decide

end Constraints

end Policy

end Strata
