import Strata.Event

/-!
Event logs: the events of one evaluation, in the order in which they were recorded.

A log may have a limit on violations. From then on violations are counted but not kept, and the
log's note says how many there were in all, unless a note was set explicitly. Events that are no
violations are always kept.
-/

namespace Strata

variable [Kinds]

/-- The events of one evaluation. -/
structure EventLog where
  events : Array Event
  /-- The number of violations among the events. -/
  violations : Nat
  /-- The note that was set explicitly. -/
  explicitNote : Option String
  limit : Option Nat
  /-- The number of violations that were not kept. -/
  omitted : Nat

namespace EventLog

/-- The empty log that keeps at most `limit` violations, or all if there is no limit. -/
def withLimit (limit : Option Nat) : EventLog := ⟨#[], 0, none, limit, 0⟩

/-- The empty log without limit. -/
def empty : EventLog := withLimit none

/-- Whether one more violation would be too many. -/
def isFull (log : EventLog) : Bool := log.limit.any (· ≤ log.violations)

/-- The log with one more event. -/
def add (log : EventLog) (e : Event) : EventLog :=
  if e.isViolation then
    if log.isFull then { log with omitted := log.omitted + 1 }
    else { log with violations := log.violations + 1, events := log.events.push e }
  else { log with events := log.events.push e }

/-- The log with more events, one after the other. -/
def addAll (log : EventLog) (es : List Event) : EventLog := es.foldl add log

/-- The log with a note that wins over the one about the limit. -/
def setNote (log : EventLog) (note : String) : EventLog := { log with explicitNote := some note }

/-- The events that were kept. -/
def toList (log : EventLog) : List Event := log.events.toList

/-- The violations that were kept. -/
def violating (log : EventLog) : List Event := log.toList.filter (·.isViolation)

/-- The events that are no violations. -/
def allowed (log : EventLog) : List Event := log.toList.filter (!·.isViolation)

/-- Whether a violation was kept. -/
def hasViolation (log : EventLog) : Bool := log.toList.any (·.isViolation)

/-- The number of events that were kept. -/
def size (log : EventLog) : Nat := log.events.size

/-- What is said about a list of which only the first `limit` of `total` entries are there. -/
def truncationNote (total limit : Nat) : String :=
  toString total ++ " times, only the first " ++ toString limit ++ " are listed"

/-- The note: the explicit one, or that violations were left out. -/
def note (log : EventLog) : Option String :=
  match log.explicitNote, log.limit with
  | some text, _ => some text
  | none, some limit =>
    if log.omitted = 0 then none else some (truncationNote (limit + log.omitted) limit)
  | none, none => none

@[simp] theorem toList_withLimit (limit : Option Nat) : (withLimit limit).toList = [] := rfl

theorem toList_add (log : EventLog) (e : Event) :
    (log.add e).toList =
      if e.isViolation && log.isFull then log.toList else log.toList ++ [e] := by
  by_cases hv : e.isViolation <;> by_cases hf : log.isFull <;> simp [add, toList, hv, hf]

@[simp] theorem limit_add (log : EventLog) (e : Event) : (log.add e).limit = log.limit := by
  simp only [add, apply_ite EventLog.limit, ite_self]

end EventLog

end Strata
