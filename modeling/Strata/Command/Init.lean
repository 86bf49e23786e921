import Strata.Session

/-!
Settings to start from.
-/

namespace Strata.Command

/-- The lines of the settings. They explain themselves. -/
def templateLines : List String :=
  ["# arch-verdict configuration",
   "",
   "# Violated rules at or above this priority make `arch-verdict check` fail.",
   "fail_on = \"medium\"",
   "",
   "# Keep at most this many violations per rule in reports.",
   "# max_violations = 100",
   "",
   "[evaluation]",
   "# Evaluate per-layer rules in parallel.",
   "parallel = false",
   "",
   "# Per-rule settings: enabled flag and priority override.",
   "[rules.layer-dependencies]",
   "enabled = true",
   "priority = \"high\"",
   "",
   "# [rules.naming]",
   "# enabled = false",
   "",
   "[graph]",
   "# Element graph exported by your build (JSON).",
   "path = \"build/arch-graph.json\"",
   "# Element name patterns to leave out.",
   "exclude = [\"com.example.generated.*\"]",
   "",
   "# Layer definitions",
   "# Each layer has a name and a list of package prefixes.",
   "# Elements whose name matches a prefix belong to that layer.",
   "",
   "[[layers]]",
   "name = \"domain\"",
   "packages = [\"com.example.domain\"]",
   "",
   "[[layers]]",
   "name = \"application\"",
   "packages = [\"com.example.app\"]",
   "",
   "[[layers]]",
   "name = \"infrastructure\"",
   "packages = [\"com.example.infra\"]",
   "",
   "# Which layers may depend on which.",
   "# A layer may always depend on itself.",
   "",
   "[dependencies]",
   "domain = []",
   "application = [\"domain\"]",
   "infrastructure = [\"domain\", \"application\"]",
   "",
   "# Custom constraints (optional)",
   "",
   "# [[constraints]]",
   "# type = \"no-dependency-pattern\"",
   "# pattern = \"java.sql\"",
   "# in_layers = [\"domain\", \"application\"]",
   "# priority = \"low\"",
   "# message = \"Avoid direct JDBC usage outside infrastructure\"",
   "",
   "# [[constraints]]",
   "# type = \"naming-rule\"",
   "# target_matches = \"RepositoryImpl\"",
   "# name_must_match = \"Service\"",
   "# in_layers = [\"application\"]"]

/-- The settings to start from. -/
def template : String := String.join (templateLines.map (· ++ "\n"))

/-- Where the settings are written. -/
def templatePath : String := Path.join "." "arch-verdict.toml"

/-- What is said when the settings have been written. -/
def created : String :=
  "Created " ++ templatePath ++ "\n\nNext steps:\n"
    ++ "  1. Edit [[layers]] and [dependencies] for your project\n"
    ++ "  2. Export the element graph to the [graph] path\n"
    ++ "  3. Run: arch-verdict check\n"

/-- Writes the settings to start from. Existing ones are only overwritten by force. -/
def writeTemplate {m : Type → Type} [Monad m] (files : Files m) (force : Bool) :
    Session m String := do
  if (← files.holds templatePath) && !force then
    throw ⟨"Configuration file already exists at " ++ templatePath
      ++ ". Use --force to overwrite.", []⟩
  match ← files.write templatePath template with
  | .ok () => return created
  | .error fault => throw ⟨"Failed to write " ++ templatePath, [fault.message]⟩

end Strata.Command
