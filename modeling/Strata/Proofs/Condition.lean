import Strata.Condition
import Strata.Proofs.EventLog.Limit

/-!
What conditions record. A condition may do anything with the log it is given. Those of the rules
record some events for each thing and look at nothing else (`Condition.Records`), and then checking
many things records the events of all of them one after the other (`Records.checkAll`). The opposite
of such a condition is again one (`Records.never`).
-/

namespace Strata.Condition

variable [Kinds]

variable {α : Type} {c : Condition α} {events : α → List Event}

/-- A condition records the given events for each thing, whatever the log holds already. -/
def Records (c : Condition α) (events : α → List Event) : Prop :=
  ∀ a log, c.check a log = log.addAll (events a)

lemma records_each (description : String) (payload : α → Payload) (satisfied : α → Bool)
    (message : α → String) :
    (each description payload satisfied message).Records
      fun a => [.single (payload a) (satisfied a) (message a)] :=
  fun _ _ => rfl

/-- The opposite is recorded in full: the log in between has no limit and keeps every event. -/
lemma Records.never (h : c.Records events) : c.never.Records fun a => (events a).map .inverse := by
  intro a log
  have hkept : (c.check a .empty).toList = events a := by
    rw [h a, EventLog.toList_addAll rfl]
    rfl
  show log.addAll ((c.check a .empty).toList.map .inverse) = log.addAll ((events a).map .inverse)
  rw [hkept]

lemma Records.checkAll (h : c.Records events) (things : List α) (log : EventLog) :
    c.checkAll things log = log.addAll (things.flatMap events) := by
  induction things generalizing log with
  | nil => rfl
  | cons a things ih =>
      calc c.checkAll (a :: things) log
          = c.checkAll things (c.check a log) := rfl
        _ = (log.addAll (events a)).addAll (things.flatMap events) := by rw [ih, h a]
        _ = log.addAll ((a :: things).flatMap events) := by
            rw [List.flatMap_cons, EventLog.addAll_append]

/-- One event for each thing. -/
lemma Records.checkAll_map {event : α → Event} (h : c.Records fun a => [event a])
    (things : List α) (log : EventLog) :
    c.checkAll things log = log.addAll (things.map event) := by
  rw [h.checkAll, ← List.map_eq_flatMap]

/-! ### One line for each thing -/

section Single

variable {payload : α → Payload} {satisfied : α → Bool} {message : α → String}

lemma isViolation_single (payload : Payload) (satisfied : Bool) (message : String) :
    (Event.single payload satisfied message).isViolation = !satisfied := rfl

/-- Of events with one line each, the violations tell the things that do not satisfy. -/
lemma filter_isViolation_map_single (things : List α) :
    (things.map fun a => Event.single (payload a) (satisfied a) (message a)).filter
        (·.isViolation) =
      (things.filter fun a => !satisfied a).map fun a => .single (payload a) false (message a) := by
  induction things with
  | nil => rfl
  | cons a things ih =>
      cases h : satisfied a <;> simp [isViolation_single, h, ih]

end Single

end Strata.Condition
