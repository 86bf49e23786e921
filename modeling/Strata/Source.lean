import Strata.Files
import Strata.Path
import Strata.Progress

/-!
Where settings come from: a file given by name, a file of the project, or one that holds for all
projects of a user.

A file given by name is taken whether or not it exists. Paths in settings are meant from the
directory of the file, but those in settings for all projects from the project.
-/

namespace Strata

/-- Where settings come from. -/
inductive Source where
  /-- The file was given by name. -/
  | explicit (path : String)
  | project (path : String)
  /-- The file holds for all projects. -/
  | shared (path : String)
  | nowhere
  deriving DecidableEq

/-- What a command knows of its surroundings. -/
structure Environment where
  /-- The directory for settings that hold for all projects, if one is chosen. -/
  configDir : Option String
  home : Option String

/-- The directory for settings that hold for all projects: the one that is chosen, even by an empty
name, or one in the home, if that has a name. -/
def Environment.sharedDirectory? (env : Environment) : Option String :=
  env.configDir.or ((env.home.filter fun home => !home.isEmpty).map fun home =>
    Path.join home ".arch-verdict")

namespace Source

/-- The file. -/
def path? : Source → Option String
  | explicit path => some path
  | project path => some path
  | shared path => some path
  | nowhere => none

/-- Whether the settings hold for all projects. -/
def isShared : Source → Bool
  | shared _ => true
  | _ => false

/-- The directory of a file, or the project if the file has none. -/
def directoryOf (project file : String) : String :=
  ((Path.parent? file).filter fun d => !d.isEmpty).getD project

/-- The directory from which paths in the settings are meant. -/
def baseDirectory (project : String) : Source → String
  | explicit path => directoryOf project path
  | .project path => directoryOf project path
  | _ => project

/-- The names that settings of a project can have, those that are looked for first coming first. -/
def projectNames : List String := ["arch-verdict.toml", ".arch-verdict.toml"]

/-- The name of settings that hold for all projects. -/
def sharedName : String := "config.toml"

/-- The first path that leads to something. -/
def firstHeld {m : Type → Type} [Monad m] (files : Files m) : List String → m (Option String)
  | [] => return none
  | path :: rest => do if ← files.holds path then return some path else firstHeld files rest

/-- Where the settings for a project come from. -/
def find {m : Type → Type} [Monad m] (files : Files m) (project : String)
    (explicit? : Option String) (shared? : Option String) : m Source := do
  if let some path := explicit? then return .explicit path
  if let some path ← firstHeld files (projectNames.map (Path.join project)) then
    return .project path
  match ← firstHeld files ((shared?.map fun d => Path.join d sharedName).toList) with
  | some path => return .shared path
  | none => return .nowhere

/-- What finding the settings tells. -/
def progress : Source → List Progress
  | project path => [.debug ("Found project config: " ++ path)]
  | shared path => [.debug ("Found global config: " ++ path)]
  | _ => []

end Source

end Strata
