import Strata.EventLog

/-!
Conditions: what single things are checked against.

A condition records in a log what came of checking a thing; how many events that is, is up to it.
`Condition.never` records the same events with the opposite outcome.
-/

namespace Strata

variable [Kinds]

/-- What things of type `α` are checked against. -/
structure Condition (α : Type) where
  /-- A phrase that completes "should", such as `contain 'x'`. -/
  description : String
  check : α → EventLog → EventLog

namespace Condition

variable {α : Type}

/-- Checks things one after the other. -/
def checkAll (c : Condition α) (things : List α) (log : EventLog) : EventLog :=
  things.foldl (fun log a => c.check a log) log

/-- The condition of which each thing gives one event, with the thing as its payload. -/
def each (description : String) (payload : α → Payload) (satisfied : α → Bool)
    (message : α → String) : Condition α where
  description
  check a log := log.add (.single (payload a) (satisfied a) (message a))

/-- The condition that records the opposite of all that `c` records. -/
def never (c : Condition α) : Condition α where
  description := "never " ++ c.description
  check a log := log.addAll ((c.check a .empty).toList.map Event.inverse)

end Condition

end Strata
