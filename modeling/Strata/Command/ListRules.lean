import Strata.Engine

/-!
The list of all rules there are.
-/

namespace Strata.Command

/-- A text with blanks after it up to a width. -/
def padded (width : Nat) (s : String) : String :=
  String.ofList (s.toList.rightpad width ' ')

/-- A line of the list. -/
def ruleLine (name summary : String) : String := padded 22 name ++ " " ++ summary ++ "\n"

/-- The list, and how rules are configured. -/
def ruleList : String :=
  "Available rules:\n\n" ++ ruleLine "Name" "Description"
    ++ String.ofList (List.replicate 80 '-') ++ "\n"
    ++ String.join (Engine.available.map fun r => ruleLine r.1 r.2)
    ++ "\nRules are configured under [rules.<name>] (enabled, priority).\n"
    ++ "dependency-pattern and naming are built from [[constraints]] entries.\n"
    ++ "\nUse --rules to filter specific rules, e.g.:\n"
    ++ "  arch-verdict check --rules layer-dependencies,naming\n"

end Strata.Command
