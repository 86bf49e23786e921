import Strata.Command.Check
import Strata.Command.Init
import Strata.Command.ListRules
import Strata.Payload.Plain

/-!
The program: from arguments to what is printed.
-/

namespace Strata

/-- What a run leaves behind. -/
structure Run where
  /-- What is printed. -/
  output : String
  /-- What is told about errors. -/
  errors : String
  progress : List Progress
  status : Nat

namespace Program

/-- How the program is used. -/
def usage : String :=
  "Architecture rule evaluation over exported element graphs\n\n"
    ++ "Usage: arch-verdict [OPTIONS] <COMMAND>\n\n"
    ++ "Commands:\n"
    ++ "  check [GRAPH]  Evaluate the configured rules against an element graph\n"
    ++ "  list-rules     List available rules\n"
    ++ "  init           Initialize configuration file\n\n"
    ++ "Options:\n"
    ++ "  -v, --verbose           Enable verbose output\n"
    ++ "  -c, --config <CONFIG>   Path to configuration file\n"
    ++ "  -f, --format <FORMAT>   check: text, json or compact\n"
    ++ "      --rules <RULES>     check: only run specific rules (comma-separated)\n"
    ++ "  -e, --exclude <EXCLUDE> check: element name patterns to exclude\n"
    ++ "      --force             init: overwrite existing config\n"
    ++ "  -h, --help              Print help\n"
    ++ "  -V, --version           Print version\n"

/-- The name and version of the program. -/
def version : String := "arch-verdict 0.1.0\n"

variable {m : Type → Type} [Monad m]

/-- Runs a command: what it prints, and whether it has passed. -/
def perform (files : Files m) (env : Environment) (i : Invocation) : Session m (String × Bool) := do
  match i.command with
  | .check o =>
    let source ← (Source.find files "." i.config env.sharedDirectory? : m Source)
    tell source.progress
    let verdict ← Command.checkGraph files o source "."
    return (Listing.render verdict.reports o.format, verdict.passes)
  | .listRules => return (Command.ruleList, true)
  | .init force => return (← Command.writeTemplate files force, true)

/-- Runs the program. -/
def run (files : Files m) (env : Environment) (args : List String) : m Run := do
  match CommandLine.read args with
  | .error .help => return ⟨usage, "", [], 0⟩
  | .error .version => return ⟨version, "", [], 0⟩
  | .error .misuse => return ⟨"", usage, [], 2⟩
  | .ok i =>
    let (result, progress) ← (perform files env i).run.run []
    let shown := Progress.shown i.verbose progress
    match result with
    | .ok (output, passed) => return ⟨output, "", shown, if passed then 0 else 1⟩
    | .error failure => return ⟨"", failure.render, shown, 1⟩

end Program

end Strata
