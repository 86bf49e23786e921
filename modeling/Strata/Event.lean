import Strata.Payload
import Strata.Text

/-!
Events: what came of checking one thing against one condition.

An event is satisfied or a violation. It is told in lines, and it hands its payloads on together
with all its lines as one message. A narrowed event tells only the lines that a predicate keeps,
and hands on its message only if the predicate keeps the message.
-/

namespace Strata

variable [Kinds]

/-- What is handed on to a handler. -/
structure Delivery where
  payloads : List Payload
  message : String

namespace Delivery

/-- The payloads, if all of them are of the given kind. -/
def as? (k : PayloadKind) (d : Delivery) : Option (List k.Carrier) := d.payloads.mapM (·.as? k)

end Delivery

/-- What came of checking one thing against one condition. -/
inductive Event where
  | simple (payloads : List Payload) (satisfied : Bool) (lines : List String)
  /-- The part of an event that a predicate on lines keeps. -/
  | narrowed (keep : String → Bool) (event : Event)

namespace Event

/-- An event with one payload and one line. -/
def single (payload : Payload) (satisfied : Bool) (message : String) : Event :=
  simple [payload] satisfied [message]

/-- The lines that tell the event. -/
def lines : Event → List String
  | simple _ _ ls => ls
  | narrowed keep e => e.lines.filter keep

/-- Whether the event is a violation. One of which no line is left is none. -/
def isViolation : Event → Bool
  | simple _ satisfied _ => !satisfied
  | narrowed keep e => e.isViolation && !(e.lines.filter keep).isEmpty

/-- What the event hands on, if anything. -/
def deliveries : Event → List Delivery
  | simple payloads _ ls => [⟨payloads, Text.join "\n" ls⟩]
  | narrowed keep e => e.deliveries.filter fun d => keep d.message

/-- The event of the opposite outcome. What was narrowed is told in full again. -/
def inverse : Event → Event
  | simple payloads satisfied ls => simple payloads (!satisfied) ls
  | narrowed _ e => e.inverse

theorem isViolation_narrowed {keep : String → Bool} {e : Event} :
    (narrowed keep e).isViolation = true ↔ e.isViolation = true ∧ (narrowed keep e).lines ≠ [] := by
  simp only [isViolation, lines, Bool.and_eq_true, Bool.not_eq_true', ne_eq]
  rw [← Bool.not_eq_true, List.isEmpty_iff]

end Event

end Strata
