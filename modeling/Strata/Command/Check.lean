import Strata.CommandLine
import Strata.Graph.Document
import Strata.Session
import Strata.Source
import Strata.Text.Blank
import Strata.Verdict

/-!
The check: settings and a graph are loaded, and the rules are evaluated.

The first thing that goes wrong ends the check, in this order: there are no settings, they cannot be
read, no policy can be read from them, there is no graph, it cannot be read, the policy makes no
sense, a pattern is none.
-/

namespace Strata

namespace Command

variable [Kinds] {m : Type → Type} [Monad m]

/-! ### Loading -/

/-- What a file says; if nothing, that is why the session fails. -/
def load {α ε : Type} (files : Files m) (parse : String → Except ε α) (thing reading : String)
    (message : ε → String) (path : String) : Session m α := do
  match ← files.load parse path with
  | .ok a => return a
  | .error fault => throw ⟨"Failed to load " ++ thing ++ ": " ++ path, fault.causes reading message⟩

/-- The graph that is checked: the one given, or the one in the settings. -/
def graphPath? (o : CheckOptions) (p : Policy) (source : Source) (project : String) :
    Option String :=
  o.graph.or (p.graphPath.map (Path.join (source.baseDirectory project)))

/-- The names of rules in a text with commas between them. -/
def ruleNames (text : String) : List String :=
  ((Text.pieces ',' text).map Text.trim).filter fun name => !name.isEmpty

/-- The names of the rules to be evaluated, none if all are. -/
def selection (o : CheckOptions) : List String := (o.rules.map ruleNames).getD []

/-! ### Judging -/

/-- The verdict on a graph. -/
def judge (s : Settings) (p : Policy) (g : Graph) (only : List String) :
    Except Failure Verdict := do
  let engine ← (Engine.build p s).mapError fun problem =>
    ⟨"Config validation failed", [problem.message]⟩
  let outcomes ← (engine.evaluateOnly g only).mapError fun bad =>
    ⟨"Evaluation failed", [bad.message]⟩
  pure ⟨outcomes, s.threshold⟩

/-- What judging tells. -/
def judgeProgress (s : Settings) (p : Policy) (g : Graph) (only : List String) : List Progress :=
  match Engine.build p s with
  | .ok engine => engine.buildProgress ++ engine.progress g only
  | .error _ => []

/-- The policy with patterns added to those of names that are left out. -/
def withExcluded (patterns : List String) (p : Policy) : Policy :=
  { p with exclude := p.exclude ++ patterns }

/-! ### The whole check -/

/-- Loads settings and graph and judges the graph. -/
def checkGraph (files : Files m) (o : CheckOptions) (source : Source) (project : String) :
    Session m Verdict := do
  let some path := source.path?
    | throw ⟨"No arch-verdict.toml found. Run `arch-verdict init` to create one.", []⟩
  if source.isShared then tell [.info ("Using global config: " ++ path)]
  let settings ← load files Settings.parse "config" Settings.reading Settings.Fault.message path
  let policy ← load files Policy.parse "layers" Policy.reading Policy.complaintMessage path
  let some graphPath := graphPath? o policy source project
    | throw ⟨"No element graph given. Pass GRAPH or set [graph] path in the config.", []⟩
  let graph ← load files Graph.parse "element graph" Graph.reading Graph.complaintMessage graphPath
  tell [.info ("Loaded " ++ toString graph.elements.length ++ " elements and "
    ++ toString graph.dependencies.length ++ " dependencies from " ++ graphPath)]
  let policy := withExcluded o.exclude policy
  tell (judgeProgress settings policy graph (selection o))
  let verdict ← liftExcept (judge settings policy graph (selection o))
  tell verdict.progress
  return verdict

end Command

end Strata
