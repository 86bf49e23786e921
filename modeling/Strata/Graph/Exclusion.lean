import Strata.Glob
import Strata.Graph

/-!
Leaving elements out of a graph by patterns over their names.

`Graph.without` drops the elements whose names match one of the patterns, and the dependencies of
which either end does. It fails on the first pattern that is none, even if the graph is empty.
-/

namespace Strata

/-- A text that is no pattern, and why. -/
structure BadPattern where
  pattern : String
  fault : Glob.Fault
  deriving DecidableEq

/-- The wording. -/
def BadPattern.message (b : BadPattern) : String :=
  "invalid exclude pattern '" ++ b.pattern ++ "': " ++ b.fault.message

/-- The patterns in their pieces. -/
def Glob.parseAll (patterns : List String) : Except BadPattern (List (List Glob.Piece)) :=
  patterns.mapM fun p =>
    match parse p with
    | .ok pieces => .ok pieces
    | .error fault => .error ⟨p, fault⟩

namespace Graph

/-- The graph without the elements that `excluded` names, and without their dependencies. -/
def without (g : Graph) (excluded : String → Bool) : Graph where
  elements := g.elements.filter fun e => !excluded e.name
  dependencies := g.dependencies.filter fun d => !excluded d.origin && !excluded d.target

/-- The graph without what any of the patterns matches. -/
def withoutMatching (g : Graph) (patterns : List String) : Except BadPattern Graph := do
  let globs ← Glob.parseAll patterns
  pure (g.without fun name => globs.any fun glob => Glob.accepts glob name)

end Graph

end Strata
