import Strata.Report.Listing

/-!
Command lines: what is to be done, read from arguments.

Options come before the word of the command or after it, operands after it. Arguments are read
from the first to the last, and the first that does not fit ends the reading, as does a request for
help. No arguments ask for nothing.
-/

namespace Strata

/-- What a check is about. -/
structure CheckOptions where
  /-- The graph, if it is not the one in the settings. -/
  graph : Option String
  format : Format
  /-- The names of rules with commas between them. -/
  rules : Option String
  /-- Patterns of names that are left out of the graph, beside those in the settings. -/
  exclude : List String

/-- What is to be done. -/
inductive Command where
  | check (options : CheckOptions)
  | listRules
  /-- Writes settings to start from, over existing ones only by force. -/
  | init (force : Bool)

/-- A command with what holds for all commands. -/
structure Invocation where
  verbose : Bool
  /-- The settings, if they are given by name. -/
  config : Option String
  command : Command

namespace CommandLine

/-- Why there is no command to run. -/
inductive Stop where
  | help
  | version
  /-- The arguments do not fit. -/
  | misuse
  deriving DecidableEq

/-- What has been read so far. -/
structure Draft where
  verbose : Bool
  config : Option String
  command : Option Command
  /-- The options that have been given, since the word of the command if that has come. -/
  given : List String

namespace Draft

/-- Nothing has been read. -/
def start : Draft := ⟨false, none, none, []⟩

/-- The draft with changed options of a check. -/
def onCheck (change : CheckOptions → CheckOptions) (d : Draft) : Draft :=
  match d.command with
  | some (.check o) => { d with command := some (.check (change o)) }
  | _ => d

end Draft

/-- What an option does. -/
inductive Effect where
  | flag (set : Draft → Draft)
  /-- The option has a value, which may be refused. -/
  | value (set : String → Draft → Option Draft)
  | stop (reason : Stop)

/-- An option. -/
structure Opt where
  /-- The name that follows two dashes. -/
  name : String
  /-- The letter that may follow one dash. -/
  letter : Option Char
  /-- Whether the option may be given more than once. -/
  repeatable : Bool
  effect : Effect

/-- A text that names a file, if it is one. -/
def fileName (s : String) : Option String := if s.isEmpty then none else some s

/-- The options that all commands have. -/
def commonOptions : List Opt :=
  [⟨"verbose", some 'v', false, .flag fun d => { d with verbose := true }⟩,
   ⟨"config", some 'c', false, .value fun v d => do
      return { d with config := some (← fileName v) }⟩,
   ⟨"help", some 'h', false, .stop .help⟩]

/-- The options of a check. -/
def checkOptions : List Opt :=
  [⟨"format", some 'f', false, .value fun v d => do
      let format ← Format.keyed.lookup v
      return d.onCheck fun o => { o with format }⟩,
   ⟨"rules", none, false, .value fun v d => some (d.onCheck fun o => { o with rules := some v })⟩,
   ⟨"exclude", some 'e', true, .value fun v d =>
      some (d.onCheck fun o => { o with exclude := o.exclude ++ [v] })⟩]

/-- The options that may come next. -/
def options (d : Draft) : List Opt :=
  commonOptions ++
    match d.command with
    | none => [⟨"version", some 'V', false, .stop .version⟩]
    | some (.check _) => checkOptions
    | some .listRules => []
    | some (.init _) =>
      [⟨"force", none, false, .flag fun d => { d with command := some (.init true) }⟩]

/-- The commands by their words. -/
def commands : List (String × Command) :=
  [("check", .check ⟨none, .text, none, []⟩), ("list-rules", .listRules), ("init", .init false)]

/-- The draft with one more word that is no option: the word of the command, or the graph. -/
def operand (word : String) (d : Draft) : Except Stop Draft :=
  match d.command with
  | none =>
    match commands.lookup word with
    | some c => pure { d with command := some c, given := [] }
    | none => throw .misuse
  | some (.check o) =>
    if o.graph.isSome || word.isEmpty then throw .misuse
    else pure (d.onCheck fun o => { o with graph := some word })
  | some _ => throw .misuse

/-! ### Options -/

/-- What comes of an option: a draft, or an option that waits for its value. -/
abbrev Progressed := Draft × Option (String → Draft → Option Draft)

/-- The draft with an option that has no value, or that waits for it. -/
def give (o : Opt) (d : Draft) : Except Stop Progressed :=
  if !o.repeatable && d.given.contains o.name then throw .misuse
  else
    let d := { d with given := o.name :: d.given }
    match o.effect with
    | .flag set => pure (set d, none)
    | .value set => pure (d, some set)
    | .stop reason => throw reason

/-- The draft with the value of an option. -/
def giveValue (set : String → Draft → Option Draft) (v : String) (d : Draft) : Except Stop Draft :=
  match set v d with
  | some d => pure d
  | none => throw .misuse

/-- An option with two dashes. After an equals sign comes its value. -/
def long (body : List Char) (d : Draft) : Except Stop Progressed := do
  let name := String.ofList (body.takeWhile (· != '='))
  match (options d).find? (·.name == name), body.dropWhile (· != '=') with
  | none, _ => throw .misuse
  | some o, [] => give o d
  | some o, _ :: v =>
    match o.effect with
    | .value _ =>
      match ← give o d with
      | (d, some set) => return (← giveValue set (String.ofList v) d, none)
      | (d, none) => return (d, none)
    | _ => throw .misuse

/-- Letters after one dash. The rest after an option with a value is that value, without an equals
sign at its start. -/
def letters : List Char → Draft → Except Stop Progressed
  | [], d => pure (d, none)
  | c :: rest, d => do
    match (options d).find? (·.letter == some c) with
    | none => throw .misuse
    | some o =>
      match ← give o d with
      | (d, none) => letters rest d
      | (d, some set) =>
        match rest with
        | [] => return (d, some set)
        | '=' :: v => return (← giveValue set (String.ofList v) d, none)
        | v => return (← giveValue set (String.ofList v) d, none)

/-! ### Arguments -/

/-- Whether an argument cannot be the value of the option before it. -/
def isDashed (arg : String) : Bool := arg.toList.head? == some '-' && arg != "-"

/-- After the word `help`, one of the commands may be named. -/
def helpOn : List String → Stop
  | [] => .help
  | [word] => if word = "help" ∨ (commands.lookup word).isSome then .help else .misuse
  | _ => .misuse

/-- Reads arguments one after the other. -/
def readFrom : List String → Draft → Except Stop Draft
  | [], d => pure d
  | arg :: rest, d =>
    match arg.toList with
    | ['-', '-'] =>
      if d.command.isNone then throw .misuse else rest.foldlM (fun d word => operand word d) d
    | '-' :: c :: cs => do
      match ← if c = '-' then long cs d else letters (c :: cs) d with
      | (d, none) => readFrom rest d
      | (d, some set) =>
        match rest with
        | [] => throw .misuse
        | v :: rest => if isDashed v then throw .misuse else readFrom rest (← giveValue set v d)
    | _ =>
      if d.command.isNone ∧ arg = "help" then throw (helpOn rest)
      else do readFrom rest (← operand arg d)

/-- The invocation that arguments ask for. -/
def read (args : List String) : Except Stop Invocation := do
  let d ← readFrom args .start
  match d.command with
  | some command => pure ⟨d.verbose, d.config, command⟩
  | none => throw .misuse

end CommandLine

end Strata
