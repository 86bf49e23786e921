import Strata.Outcome
import Strata.Progress

/-!
Rules: what a whole input, such as an element graph, is evaluated against.

A rule is a `Check` or is composed of other rules. A composed rule merges the outcomes of its parts
in their order and may then cut the merged outcome to a number of violations. Its parts may be
evaluated at the same time; that changes nothing about the outcome (`evaluateParts_eq_map`).
-/

namespace Strata

variable [Kinds] {γ : Type}

/-- A rule without parts. -/
structure Check (γ : Type) where
  name : String
  description : String
  priority : Priority
  evaluate : γ → Outcome
  /-- What is told when the rule has been evaluated. -/
  progress : γ → List Progress

namespace Check

/-- The rule that records events about the input in a log. -/
def ofLog (name description : String) (priority : Priority) (collect : γ → EventLog)
    (progress : EventLog → List Progress) : Check γ where
  name
  description
  priority
  evaluate input := .ofLog description (collect input) priority
  progress input := progress (collect input)

end Check

/-- What is said of a composed rule beside its parts. -/
structure Composition where
  name : String
  /-- The description, if it is not made from those of the parts. -/
  described : Option String
  priority : Priority
  /-- How many violations of the merged outcome are kept. -/
  limit : Option Nat
  /-- Whether the parts may be evaluated at the same time. -/
  parallel : Bool

/-- A rule for inputs of type `γ`. -/
inductive Rule (γ : Type) where
  | check (c : Check γ)
  | compose (c : Composition) (parts : List (Rule γ))

namespace Rule

/-- The name, in kebab case. -/
def name : Rule γ → String
  | check c => c.name
  | compose c _ => c.name

/-- The priority of violations. -/
def priority : Rule γ → Priority
  | check c => c.priority
  | compose c _ => c.priority

mutual

/-- The description of a rule. -/
def description : Rule γ → String
  | check c => c.description
  | compose c parts => c.described.getD (Text.join " and " (descriptions parts))

/-- The descriptions of rules. -/
def descriptions : List (Rule γ) → List String
  | [] => []
  | r :: rest => description r :: descriptions rest

end

/-- The outcome of a composed rule, given those of its parts. -/
def combine (c : Composition) (description : String) (parts : List Outcome) : Outcome :=
  let merged := parts.foldl Outcome.merge (.empty description c.priority)
  match c.limit with
  | some limit => merged.limitTo limit
  | none => merged

mutual

/-- The outcome of a rule. -/
def evaluate (input : γ) : Rule γ → Outcome
  | check c => c.evaluate input
  | compose c parts =>
    combine c (description (compose c parts)) (evaluateParts input c.parallel parts)

/-- The outcomes of rules, one after the other or at the same time. -/
def evaluateParts (input : γ) (parallel : Bool) : List (Rule γ) → List Outcome
  | [] => []
  | r :: rest =>
    if parallel then
      let first := Task.spawn fun _ => evaluate input r
      let others := evaluateParts input parallel rest
      first.get :: others
    else evaluate input r :: evaluateParts input parallel rest

end

mutual

/-- What the evaluation of a rule tells. -/
def progress (input : γ) : Rule γ → List Progress
  | check c => c.progress input
  | compose c parts =>
    .debug ("Evaluating composite rule " ++ c.name ++ " with " ++ toString parts.length
      ++ " sub-rules") :: progressOfParts input parts

/-- What the evaluation of rules tells. -/
def progressOfParts (input : γ) : List (Rule γ) → List Progress
  | [] => []
  | r :: rest => progress input r ++ progressOfParts input rest

end

/-- The outcomes do not depend on what is evaluated at the same time. -/
@[simp] theorem evaluateParts_eq_map (input : γ) (parallel : Bool) (rules : List (Rule γ)) :
    evaluateParts input parallel rules = rules.map (evaluate input) := by
  induction rules with
  | nil => simp [evaluateParts]
  | cons r rest ih => simp [evaluateParts, ih, Task.spawn]

end Rule

end Strata
