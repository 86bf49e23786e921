import Strata.Dictionary
import Strata.Priority
import Strata.Toml.Document

/-!
Settings: how rules are evaluated, as a settings document says it.

The document may hold more; what no setting asks for is ignored. Main statement:
`maxViolations_pos`, no settings that have been read keep zero violations.
-/

namespace Strata

/-- A word and the priority it names. -/
structure PriorityWord where
  word : String
  priority : Priority
  parsed : Priority.parse? word = some priority

/-- What is set for one rule. -/
structure RuleSetting where
  enabled : Option Bool
  priority : Option Priority
  deriving DecidableEq

/-- How rules are evaluated. -/
structure Settings where
  /-- The priority from which on a violated rule makes a check fail. -/
  failOn : Option PriorityWord
  /-- How many violations of a rule are kept. -/
  maxViolations : Option Nat
  /-- Whether parts of a rule may be evaluated at the same time. -/
  parallel : Bool
  rules : Dictionary RuleSetting

namespace Settings

/-- What holds if nothing is set. -/
def standard : Settings := ⟨none, none, false, .empty⟩

/-- The priority from which on a violated rule makes a check fail: medium if nothing is set. -/
def threshold (s : Settings) : Priority := (s.failOn.map PriorityWord.priority).getD default

/-- Whether a rule is evaluated. Rules about which nothing is set are. -/
def isEnabled (s : Settings) (rule : String) : Bool :=
  ((s.rules.get? rule).bind RuleSetting.enabled).getD true

/-- The priority that is set for a rule. -/
def priorityOf? (s : Settings) (rule : String) : Option Priority :=
  (s.rules.get? rule).bind RuleSetting.priority

/-! ### Reading -/

/-- What can be wrong with a settings document. -/
inductive Fault where
  | unreadable (complaint : Complaint)
  /-- A word that names no priority. -/
  | unknownPriority (word : String)
  /-- A maximum of zero violations. -/
  | noViolations
  deriving DecidableEq

/-- The wording of a fault. -/
def Fault.message : Fault → String
  | unreadable c => c.describe "Failed to parse config"
  | unknownPriority word => Priority.unknownMessage word
  | noViolations => "Failed to parse config: max_violations must be at least 1"

/-- How the wording begins if a file with settings cannot be read. -/
def reading : String := "Failed to read config file"

/-- The settings of a document as they stand there. -/
structure Draft where
  failOn : Option String
  maxViolations : Option Nat
  parallel : Bool
  rules : List (String × RuleSetting)

/-- A priority in a settings document. -/
def priority : Datum → Decoded Priority := Datum.wordOrEmpty Priority.keyed

/-- The fields of what is set for one rule. -/
def ruleFields : List (Field RuleSetting) :=
  [.optional "enabled" (Datum.present Datum.truth) fun enabled r => { r with enabled },
   .optional "priority" (Datum.present priority) fun priority r => { r with priority }]

/-- The fields about evaluation. -/
def evaluationFields : List (Field Draft) :=
  [.optional "parallel" Datum.truth fun parallel s => { s with parallel }]

/-- The fields of a settings document, in order. -/
def fields : List (Field Draft) :=
  [.optional "fail_on" (Datum.present Datum.text) fun failOn s => { s with failOn },
   .optional "max_violations" (Datum.present (Datum.naturalBelow UInt64.size))
     fun maxViolations s => { s with maxViolations },
   Datum.nested "evaluation" .ignored evaluationFields,
   .optional "rules" (Datum.map (Datum.record .ignored ruleFields ⟨none, none⟩))
     fun rules s => { s with rules }]

/-- The priority of a word, with the word. -/
def nameOf (word : String) : Except Fault PriorityWord :=
  match h : Priority.parse? word with
  | some priority => pure ⟨word, priority, h⟩
  | none => throw (.unknownPriority word)

/-- The settings that a document describes. -/
def parse (text : String) : Except Fault Settings := do
  let draft ← (Toml.decode (Datum.record .ignored fields ⟨none, none, false, []⟩) text).mapError
    .unreadable
  let failOn ← draft.failOn.mapM nameOf
  if draft.maxViolations = some 0 then throw .noViolations
  pure ⟨failOn, draft.maxViolations, draft.parallel, .ofList draft.rules⟩

/-- No settings that have been read keep zero violations. -/
theorem maxViolations_pos {text : String} {s : Settings} (h : parse text = .ok s) :
    s.maxViolations ≠ some 0 := by
  simp only [parse, bind, Except.bind] at h
  split at h
  · cases h
  · split at h
    · cases h
    · next draft _ _ _ _ =>
      split at h
      · cases h
      · next hzero =>
        cases h
        intro h0
        simp_all

end Settings

end Strata
