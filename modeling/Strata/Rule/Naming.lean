import Strata.Rule.DependencyPattern

/-!
The rule about names: elements that depend on some targets have names to match.

Each element with such a dependency gives one event, whose lines tell all these dependencies.
-/

namespace Strata.Rule

variable [Kinds]

/-- The name of the rule. -/
def namingName : String := "naming"

/-- What is wrong with a name, `none` if nothing is. A part that must not be there does not matter
as long as one that must be there is missing. -/
def nameProblem? (c : Constraint) (simpleName : String) : Option String :=
  if !c.nameMustMatch.isEmpty && !Text.contains simpleName c.nameMustMatch then
    some ("name does not contain '" ++ c.nameMustMatch ++ "'")
  else if !c.nameMustNotMatch.isEmpty && Text.contains simpleName c.nameMustNotMatch then
    some ("name contains '" ++ c.nameMustNotMatch ++ "'")
  else none

/-- The dependencies that make the name of an element matter. -/
def namingDependencies (c : Constraint) (g : Graph) (e : Element) : List Dependency :=
  (g.dependenciesFrom e.name).filter fun d => Text.contains d.target c.targetMatches

/-- The line that tells a dependency, with what is wrong with the name of its origin. -/
def namingLine (problem : Option String) (d : Dependency) : String :=
  match problem with
  | some p => d.description ++ ", but its " ++ p
  | none => d.description

/-- What comes of checking an element, if its name matters. -/
def namingEvent? (c : Constraint) (g : Graph) (e : Element) : Option Event :=
  match namingDependencies c g e with
  | [] => none
  | matching =>
    let problem := nameProblem? c e.simpleName
    some (.simple [.element e] problem.isNone (matching.map (namingLine problem)))

/-- What the names have to be like. -/
def namingRequirement (c : Constraint) : List String :=
  (if c.nameMustMatch.isEmpty then [] else ["containing '" ++ c.nameMustMatch ++ "'"])
    ++ if c.nameMustNotMatch.isEmpty then []
      else ["not containing '" ++ c.nameMustNotMatch ++ "'"]

/-- The description of the rule that a constraint makes. -/
def namingDescription (c : Constraint) : String :=
  if c.message.isEmpty then
    classesIn c.inLayers ++ " that depend on targets containing '" ++ c.targetMatches
      ++ "' should have names " ++ Text.join " and " (namingRequirement c)
  else c.message

/-- The rule that a constraint makes. -/
def naming (layering : Layering) (c : Constraint) (priority : Priority) (limit : Option Nat) :
    Rule Graph :=
  .check <| .ofLog namingName (namingDescription c) priority
    (fun g => (EventLog.withLimit limit).addAll
      ((g.elements.filter fun e => layering.selects c.inLayers e.name).filterMap
        (namingEvent? c g)))
    fun log => [.debug (namingName ++ ": " ++ toString log.size ++ " elements matched")]

end Strata.Rule
