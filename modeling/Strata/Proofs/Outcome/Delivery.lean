import Mathlib.Data.List.Basic
import Strata.Payload.Plain
import Strata.Proofs.Outcome.Narrowing

/-!
What outcomes hand on. An event makes one call or none, and a call passes on the whole event: all
its payloads, and all its lines as one message, whatever of them was narrowed away (`Event.whole`).
A narrowing asks its predicate twice, of each line whether there is still a violation, and of the
whole message whether it is handed on. Neither answer follows from the other.

* `deliveries_eq`: the calls are those of the events whose message every narrowing keeps, in order;
* `deliveries_narrow_simple`: what is handed on after narrowing events that were told in full.
-/

namespace Strata

section

variable [Kinds]

/-! ### What an event hands on -/

namespace Event

/-- All payloads of an event with all its lines as one message, whatever was narrowed away. -/
def whole : Event → Delivery
  | simple payloads _ ls => ⟨payloads, Text.join "\n" ls⟩
  | narrowed _ e => e.whole

/-- Whether the whole message is kept by all predicates by which the event was narrowed. -/
def isHandedOn : Event → Bool
  | simple .. => true
  | narrowed keep e => e.isHandedOn && keep e.whole.message

/-- An event is handed on as a whole or not at all. -/
lemma deliveries_eq (e : Event) : e.deliveries = if e.isHandedOn then [e.whole] else [] := by
  induction e with
  | simple payloads satisfied ls => rfl
  | narrowed keep e ih =>
      rw [deliveries, ih, isHandedOn, whole]
      by_cases hinner : e.isHandedOn <;> by_cases hkeep : keep e.whole.message <;>
        simp [hinner, hkeep]

lemma flatMap_deliveries (es : List Event) :
    es.flatMap deliveries = (es.filter isHandedOn).map whole := by
  induction es with
  | nil => rfl
  | cons e es ih =>
      rw [List.flatMap_cons, ih, deliveries_eq]
      by_cases h : e.isHandedOn <;> simp [h]

/-! ### Events told in full -/

/-- Nothing of the event was narrowed away. -/
inductive IsSimple : Event → Prop where
  | mk (payloads : List Payload) (satisfied : Bool) (ls : List String) :
      IsSimple (simple payloads satisfied ls)

namespace IsSimple

variable {e : Event}

lemma isHandedOn_eq (h : e.IsSimple) : e.isHandedOn = true := by
  obtain ⟨payloads, satisfied, ls⟩ := h
  rfl

/-- The only line of an event is its message. -/
lemma lines_eq (h : e.IsSimple) (hline : e.lines.length = 1) : e.lines = [e.whole.message] := by
  obtain ⟨payloads, satisfied, ls⟩ := h
  obtain ⟨line, rfl⟩ := List.length_eq_one_iff.mp (show ls.length = 1 from hline)
  rfl

end IsSimple

/-- Of violations, those with a line that is kept are violations still. -/
lemma filter_isViolation_narrowed (keep : String → Bool) {es : List Event}
    (h : ∀ e ∈ es, e.isViolation = true) :
    (es.map (narrowed keep)).filter (·.isViolation) =
      (es.filter fun e => e.lines.any keep).map (narrowed keep) := by
  rw [List.filter_map]
  refine congrArg (List.map (narrowed keep)) (List.filter_congr fun e he => ?_)
  rw [Function.comp_apply, Bool.eq_iff_iff, isViolation_narrowed, lines, Ne,
    List.filter_eq_nil_iff, List.any_eq_true, and_iff_right (h e he)]
  simp only [not_forall, not_not, exists_prop]

end Event

/-! ### What an outcome hands on -/

namespace Outcome

variable {o : Outcome}

lemma deliveries_eq (o : Outcome) :
    o.deliveries = (o.violations.filter Event.isHandedOn).map Event.whole :=
  Event.flatMap_deliveries o.violations

lemma violations_narrow_eq (h : o.OnlyViolations) (keep : String → Bool) :
    (o.narrow keep).violations =
      (o.violations.filter fun e => e.lines.any keep).map (.narrowed keep) := by
  rw [violations_narrow, Event.filter_isViolation_narrowed keep h]

section Simple

variable (hsimple : ∀ e ∈ o.violations, e.IsSimple) (keep : String → Bool)

include hsimple

/-- After one narrowing a violation is handed on iff its message is kept. -/
lemma isHandedOn_eq_of_mem_narrow (h : o.OnlyViolations) {v : Event}
    (hv : v ∈ (o.narrow keep).violations) : v.isHandedOn = keep v.whole.message := by
  rw [violations_narrow_eq h] at hv
  obtain ⟨e, he, rfl⟩ := List.mem_map.mp hv
  rw [Event.isHandedOn, (hsimple e (List.mem_filter.mp he).1).isHandedOn_eq, Bool.true_and]
  rfl

lemma deliveries_narrow_eq_filter (h : o.OnlyViolations) :
    (o.narrow keep).deliveries =
      ((o.narrow keep).violations.filter fun v => keep v.whole.message).map Event.whole := by
  rw [deliveries_eq]
  refine congrArg (List.map Event.whole) (List.filter_congr fun v hv => ?_)
  exact isHandedOn_eq_of_mem_narrow hsimple keep h hv

variable (hline : ∀ e ∈ o.violations, e.lines.length = 1)

include hline

/-- A line is kept iff the message is, if it is the only one. -/
lemma any_lines_eq {e : Event} (he : e ∈ o.violations) :
    e.lines.any keep = keep e.whole.message := by
  rw [(hsimple e he).lines_eq (hline e he), List.any_cons, List.any_nil, Bool.or_false]

lemma keep_message_of_mem_narrow (h : o.OnlyViolations) {v : Event}
    (hv : v ∈ (o.narrow keep).violations) : keep v.whole.message = true := by
  rw [violations_narrow_eq h] at hv
  obtain ⟨e, he, rfl⟩ := List.mem_map.mp hv
  obtain ⟨hmem, hkept⟩ := List.mem_filter.mp he
  rwa [any_lines_eq hsimple keep hline hmem] at hkept

omit keep in
/-- Of violations with one line each, the messages are the lines. -/
lemma flatMap_lines_eq :
    o.violations.flatMap Event.lines = o.violations.map fun e => e.whole.message := by
  rw [List.map_eq_flatMap]
  exact List.flatMap_congr fun e he => (hsimple e he).lines_eq (hline e he)

end Simple

/-- **What is handed on after narrowing**: of violations told in full, those with a line that is
kept and a message that is kept, in order, each as a whole. If each has one line only, the messages
are the lines of the narrowed report. -/
theorem deliveries_narrow_simple (ho : Reached o) (hsimple : ∀ e ∈ o.violations, e.IsSimple)
    (keep : String → Bool) :
    (o.narrow keep).deliveries =
        (o.violations.filter fun e => e.lines.any keep && keep e.whole.message).map Event.whole ∧
      ((∀ e ∈ o.violations, e.lines.length = 1) →
        ((o.narrow keep).deliveries.map Delivery.message).Perm
          (o.narrow keep).report.details) := by
  have hcalls : (o.narrow keep).deliveries =
      (o.violations.filter fun e => e.lines.any keep && keep e.whole.message).map Event.whole := by
    rw [deliveries_narrow_eq_filter hsimple keep ho.onlyViolations,
      violations_narrow_eq ho.onlyViolations, List.filter_map, List.map_map, List.filter_filter]
    refine congrArg (List.map Event.whole) (List.filter_congr fun e _ => ?_)
    exact Bool.and_comm _ _
  refine ⟨hcalls, fun hline => ?_⟩
  have hkept : (o.violations.filter fun e => e.lines.any keep && keep e.whole.message) =
      o.violations.filter fun e => keep e.whole.message := by
    refine List.filter_congr fun e he => ?_
    rw [any_lines_eq hsimple keep hline he, Bool.and_self]
  have hmessages : (o.narrow keep).deliveries.map Delivery.message =
      (o.narrow keep).violations.flatMap Event.lines :=
    calc (o.narrow keep).deliveries.map Delivery.message
        = (o.violations.filter fun e => keep e.whole.message).map fun e => e.whole.message := by
          rw [hcalls, hkept, List.map_map]
          rfl
      _ = (o.violations.map fun e => e.whole.message).filter keep := by
          rw [List.filter_map]
          rfl
      _ = (o.narrow keep).violations.flatMap Event.lines := by
          rw [lines_narrow ho.onlyViolations, flatMap_lines_eq hsimple hline]
  rw [hmessages]
  exact (Text.sortLines_perm _).symm

end Outcome

end

namespace Outcome

/-- The first violation keeps a line but not its message, the second one has no line to keep. -/
theorem deliveries_narrow_simple_two_lines :
    let o := ofLog "r" (EventLog.empty.addAll [.simple [.text "x", .natural32 7] false ["a", "b"],
      .simple [] false [], .simple [.nothing] true ["a"], .simple [.truth true] false ["a"]]) .high
    let short := ofLog "s" (EventLog.empty.addAll
      [.simple [] false ["c"], .simple [.truth true] false ["b"], .simple [] false ["a"]]) .low
    Reached o ∧ (∀ e ∈ o.violations, e.IsSimple) ∧
      (o.narrow (· == "a")).deliveries = [⟨[.truth true], "a"⟩] ∧
      Reached short ∧ (∀ e ∈ short.violations, e.IsSimple) ∧
      (∀ e ∈ short.violations, e.lines.length = 1) ∧
      ((short.narrow (· != "b")).deliveries.map Delivery.message).Perm
        (short.narrow (· != "b")).report.details := by
  intro o short
  have ho : Reached o := .ofLog _ _ _
  have hsimple : ∀ e ∈ o.violations, e.IsSimple :=
    List.forall_mem_cons.mpr ⟨.mk _ _ _, List.forall_mem_cons.mpr ⟨.mk _ _ _,
      List.forall_mem_singleton.mpr (.mk _ _ _)⟩⟩
  have hshort : Reached short := .ofLog _ _ _
  have hsimple' : ∀ e ∈ short.violations, e.IsSimple :=
    List.forall_mem_cons.mpr ⟨.mk _ _ _, List.forall_mem_cons.mpr ⟨.mk _ _ _,
      List.forall_mem_singleton.mpr (.mk _ _ _)⟩⟩
  have hline : ∀ e ∈ short.violations, e.lines.length = 1 :=
    List.forall_mem_cons.mpr ⟨rfl, List.forall_mem_cons.mpr ⟨rfl,
      List.forall_mem_singleton.mpr rfl⟩⟩
  refine ⟨ho, hsimple, ?_, hshort, hsimple', hline,
    (deliveries_narrow_simple hshort hsimple' (· != "b")).2 hline⟩
  rw [(deliveries_narrow_simple ho hsimple (· == "a")).1]
  rfl

end Outcome

end Strata
