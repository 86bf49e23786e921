import Mathlib.Algebra.Ring.Parity
import Mathlib.Logic.Function.Iterate
import Strata.Payload.Plain
import Strata.Proofs.Condition

/-!
Opposites of opposites. `Condition.never` lets the condition inside it fill a log of its own and
records the opposite of each event in there. That log has no limit, so however many of these are
stacked, no event gets lost on the way out or counts against a limit while it is turned around
(`Records.iterate_never`). Main statement: `checkAll_iterate_never`, an even number of them leaves
no trace, and an odd number flips what is recorded.
-/

namespace Strata

section

variable [Kinds]

/-- An event before it is recorded: what caused it, what came of it, and how it is told. -/
structure Remark where
  payloads : List Payload
  satisfied : Bool
  lines : List String

namespace Remark

/-- The event that is recorded. -/
def toEvent (r : Remark) : Event := .simple r.payloads r.satisfied r.lines

/-- The remark of which the opposite came. -/
def flip (r : Remark) : Remark := { r with satisfied := !r.satisfied }

lemma flip_involutive : Function.Involutive flip := by
  intro r
  simp [flip]

/-- An event is turned around by flipping its remark. -/
lemma toEvent_semiconj : Function.Semiconj toEvent flip Event.inverse := fun _ => rfl

lemma inverse_iterate_toEvent (k : ℕ) (r : Remark) :
    Event.inverse^[k] r.toEvent = (flip^[k] r).toEvent :=
  (toEvent_semiconj.iterate_right k r).symm

end Remark

namespace Condition

variable {α : Type} {c : Condition α}

/-- Each `never` turns every event around once and keeps them in order. -/
lemma Records.iterate_never {events : α → List Event} (h : c.Records events) (k : ℕ) :
    (Condition.never^[k] c).Records fun a => (events a).map Event.inverse^[k] := by
  induction k with
  | zero => simpa using h
  | succ k ih =>
      rw [Function.iterate_succ_apply', Function.iterate_succ']
      simpa only [List.map_map] using ih.never

/-- What stacked opposites record of many things, as remarks. -/
lemma Records.checkAll_iterate_never_eq {remarks : α → List Remark}
    (h : c.Records fun a => (remarks a).map Remark.toEvent) (k : ℕ) (things : List α)
    (log : EventLog) :
    (Condition.never^[k] c).checkAll things log =
      log.addAll ((things.flatMap remarks).map fun r => (Remark.flip^[k] r).toEvent) :=
  calc (Condition.never^[k] c).checkAll things log
      = log.addAll (things.flatMap fun a =>
          ((remarks a).map Remark.toEvent).map Event.inverse^[k]) :=
        (h.iterate_never k).checkAll things log
    _ = log.addAll (things.flatMap fun a =>
          (remarks a).map fun r => (Remark.flip^[k] r).toEvent) := by
        simp only [List.map_map, Function.comp_def, Remark.inverse_iterate_toEvent]
    _ = log.addAll ((things.flatMap remarks).map fun r => (Remark.flip^[k] r).toEvent) := by
        rw [List.map_flatMap]

/-- **Stacked opposites.** Let a condition record some remarks for each thing, whatever the log
holds already. Under an even number of opposites any things leave any log as the condition itself
does, and under an odd number as if the same remarks had been recorded in the same order, each of
them flipped. -/
theorem checkAll_iterate_never {remarks : α → List Remark}
    (h : c.Records fun a => (remarks a).map Remark.toEvent) (k : ℕ) (things : List α)
    (log : EventLog) :
    (Even k → (never^[k] c).checkAll things log = c.checkAll things log) ∧
      (Odd k → (never^[k] c).checkAll things log =
        log.addAll ((things.flatMap remarks).map fun r => r.flip.toEvent)) := by
  have hstack := h.checkAll_iterate_never_eq k things log
  constructor
  · intro hk
    rw [hstack, Remark.flip_involutive.iterate_even hk]
    exact (h.checkAll_iterate_never_eq 0 things log).symm
  · intro hk
    rw [hstack, Remark.flip_involutive.iterate_odd hk]

/-- The condition that records the remarks it is given. -/
def telling : Condition (List Remark) where
  description := "be as told"
  check remarks log := log.addAll (remarks.map Remark.toEvent)

end Condition

end

namespace Condition

/-- Three opposites over a log that holds a violation and has room for one more: of three events the
satisfied ones become violations, and the second of these is only counted. -/
theorem checkAll_iterate_never_telling :
    let log := (EventLog.withLimit (some 2)).add (.simple [] false ["a"])
    let things : List (List Remark) :=
      [[⟨[.truth true], true, ["b", "b"]⟩, ⟨[], false, []⟩], [], [⟨[], true, ["c"]⟩]]
    telling.Records (fun remarks => (id remarks).map Remark.toEvent) ∧ Odd 3 ∧
      (never^[3] telling).checkAll things log =
        log.addAll [.simple [.truth true] false ["b", "b"], .simple [] true [],
          .simple [] false ["c"]] ∧
      ((never^[3] telling).checkAll things log).note =
        some "3 times, only the first 2 are listed" := by
  intro log things
  have hrecords : telling.Records (fun remarks => (id remarks).map Remark.toEvent) :=
    fun _ _ => rfl
  have hodd : Odd 3 := by decide
  have hlog := (checkAll_iterate_never hrecords 3 things log).2 hodd
  refine ⟨hrecords, hodd, hlog, ?_⟩
  rw [hlog]
  decide

end Condition

end Strata
