import Mathlib.Data.List.Forall2
import Strata.Payload.Plain
import Strata.Proofs.Outcome.Named
import Strata.Proofs.Outcome.Violations

/-!
Narrowing what was merged, and narrowing twice. An event that is narrowed twice is wrapped twice,
and each layer decides anew which lines are left, whether this is still a violation and whether the
message is handed on; only what can be observed is the same as if it had been wrapped once
(`Event.LooksLike`, `Outcome.LooksLike`). Main statement: `looksLike_narrow`, narrowing goes through
a merged outcome part by part, and two predicates may be taken together.
-/

namespace Strata

section

variable [Kinds]

/-! ### Events that look alike -/

/-- Two events that tell and hand on the same. -/
structure Event.LooksLike (e e' : Event) : Prop where
  lines_eq : e.lines = e'.lines
  isViolation_eq : e.isViolation = e'.isViolation
  deliveries_eq : e.deliveries = e'.deliveries

namespace Event

/-- An event narrowed twice looks as if it had been narrowed once, by both predicates. -/
lemma looksLike_narrowed_narrowed (p q : String → Bool) (e : Event) :
    (narrowed q (narrowed p e)).LooksLike (narrowed (fun line => p line && q line) e) := by
  have hboth : ∀ {α : Type} (message : α → String) (items : List α),
      (items.filter fun a => p (message a)).filter (fun a => q (message a)) =
        items.filter fun a => p (message a) && q (message a) := by
    intro α message items
    rw [List.filter_filter]
    exact List.filter_congr fun a _ => Bool.and_comm _ _
  have hlines : (narrowed q (narrowed p e)).lines =
      (narrowed (fun line => p line && q line) e).lines := hboth id e.lines
  refine ⟨hlines, ?_, hboth Delivery.message e.deliveries⟩
  rw [Bool.eq_iff_iff, isViolation_narrowed, isViolation_narrowed, isViolation_narrowed, hlines]
  -- a line that both predicates keep is a line that the first one keeps
  have hfirst : (narrowed (fun line => p line && q line) e).lines ≠ [] →
      (narrowed p e).lines ≠ [] := by
    intro hne hnil
    rw [← hlines] at hne
    exact hne (congrArg (List.filter q) hnil)
  tauto

/-- What was dropped by one narrowing would have been dropped by the next. -/
lemma filter_isViolation_narrowed_filter (keep : String → Bool) (es : List Event) :
    ((es.filter (·.isViolation)).map (narrowed keep)).filter (·.isViolation) =
      (es.map (narrowed keep)).filter (·.isViolation) := by
  rw [List.filter_map, List.filter_map, List.filter_filter]
  refine congrArg (List.map (narrowed keep)) (List.filter_congr fun e _ => ?_)
  show ((narrowed keep e).isViolation && e.isViolation) = (narrowed keep e).isViolation
  rw [Bool.and_eq_left_iff_imp]
  exact fun h => (isViolation_narrowed.mp h).1

/-- Violations narrowed twice look like those narrowed once, one by one. -/
lemma forall₂_looksLike_narrowed (p q : String → Bool) (es : List Event) :
    List.Forall₂ LooksLike
      ((((es.map (narrowed p)).filter (·.isViolation)).map (narrowed q)).filter (·.isViolation))
      ((es.map (narrowed fun line => p line && q line)).filter (·.isViolation)) := by
  rw [filter_isViolation_narrowed_filter, List.map_map]
  have hkept : ∀ e e' : Event, e.LooksLike e' → (e.isViolation = true ↔ e'.isViolation = true) :=
    fun e e' h => by rw [h.isViolation_eq]
  refine List.rel_filter hkept ?_
  rw [List.forall₂_map_left_iff, List.forall₂_map_right_iff, List.forall₂_same]
  exact fun e _ => looksLike_narrowed_narrowed p q e

lemma flatMap_eq_of_forall₂ {β : Type} {f : Event → List β} {es es' : List Event}
    (hf : ∀ e e' : Event, e.LooksLike e' → f e = f e') (h : List.Forall₂ LooksLike es es') :
    es.flatMap f = es'.flatMap f := by
  induction h with
  | nil => rfl
  | cons h _ ih => rw [List.flatMap_cons, List.flatMap_cons, hf _ _ h, ih]

end Event

/-! ### Outcomes that look alike -/

namespace Outcome

/-- Two outcomes that no client can tell apart: they have as many violations, make the same report,
and hand on the same, to a handler of everything and to one of any kind of payloads. -/
structure LooksLike (o o' : Outcome) : Prop where
  count_eq : o.count = o'.count
  report_eq : o.report = o'.report
  deliveries_eq : o.deliveries = o'.deliveries
  deliveriesOf_eq : ∀ k, o.deliveriesOf k = o'.deliveriesOf k

/-- Outcomes look alike if their violations do, one by one, and all else is the same. -/
lemma LooksLike.of_forall₂ {o o' : Outcome} (hrule : o.rule = o'.rule)
    (hpriority : o.priority = o'.priority) (hnote : o.note = o'.note)
    (h : List.Forall₂ Event.LooksLike o.violations o'.violations) : o.LooksLike o' := by
  have hdeliveries : o.deliveries = o'.deliveries :=
    Event.flatMap_eq_of_forall₂ (fun _ _ he => he.deliveries_eq) h
  have hlines : o.violations.flatMap Event.lines = o'.violations.flatMap Event.lines :=
    Event.flatMap_eq_of_forall₂ (fun _ _ he => he.lines_eq) h
  refine ⟨h.length_eq, ?_, hdeliveries, fun k => ?_⟩
  · rw [report, report, hrule, hpriority, hlines, hnote]
  · rw [deliveriesOf, deliveriesOf, hdeliveries]

lemma LooksLike.of_eq {o o' : Outcome} (h : o = o') : o.LooksLike o' := by
  subst h
  exact ⟨rfl, rfl, rfl, fun _ => rfl⟩

/-! ### Narrowing -/

/-- A merged outcome is narrowed part by part. -/
lemma narrow_merge (keep : String → Bool) (o part : Outcome) :
    (o.merge part).narrow keep = (o.narrow keep).merge (part.narrow keep) := by
  refine Outcome.ext rfl rfl ?_ ?_
  · rw [violations_merge, violations_narrow, violations_narrow, violations_narrow, violations_merge,
      List.map_append, List.filter_append]
  · calc ((o.merge part).narrow keep).note
        = none := note_narrow _ _
      _ = (o.narrow keep).note.or (part.narrow keep).note := by
          rw [note_narrow, note_narrow, Option.or_none]

lemma looksLike_narrow_narrow (p q : String → Bool) (o : Outcome) :
    ((o.narrow p).narrow q).LooksLike (o.narrow fun line => p line && q line) := by
  refine .of_forall₂ rfl rfl ?_ ?_
  · rw [note_narrow, note_narrow]
  · rw [violations_narrow, violations_narrow, violations_narrow]
    exact Event.forall₂_looksLike_narrowed p q o.violations

/-- **Narrowing goes through merging, and two narrowings are one**, as far as clients can see. There
is no note on what is narrowed, and whatever is made of outcomes, those that are not targets look as
they did. -/
theorem looksLike_narrow (a b : Outcome) (p q : String → Bool) :
    ((a.merge b).narrow p).LooksLike ((a.narrow p).merge (b.narrow p)) ∧
      ((a.narrow p).narrow q).LooksLike (a.narrow fun line => p line && q line) ∧
      (∀ (o : Outcome) (keep : String → Bool), (o.narrow keep).note = none) ∧
      ∀ (kept : Outcomes) (actions : List Action) (source : String),
        (∀ action ∈ actions, action.target ≠ source) →
          (kept.run actions source).LooksLike (kept source) :=
  ⟨.of_eq (narrow_merge p a b), looksLike_narrow_narrow p q a, fun o keep => note_narrow keep o,
    fun _ _ _ h => .of_eq (Outcomes.run_of_forall_target_ne h)⟩

end Outcome

end

namespace Outcome

/-- Of the first event each predicate takes one line, so that nothing is left of it; the second one
tells the same line twice and goes to handlers in full. -/
theorem looksLike_narrow_two_lines :
    let log := EventLog.empty.addAll
      [.simple [.text "x"] false ["a", "b"], .simple [.truth true] false ["c", "a", "c"]]
    let o := ofLog "r" log .high
    let part := ofLog "s" (log.setNote "many") .low
    let kept : Outcomes := fun _ => o
    let actions : List Action :=
      [.copy "all" "o", .merge "all" "part", .narrow "all" "all" (· != "a")]
    (∀ action ∈ actions, action.target ≠ "o") ∧
      ((o.merge part).narrow (· != "a")).LooksLike
        ((o.narrow (· != "a")).merge (part.narrow (· != "a"))) ∧
      ((o.narrow (· != "a")).narrow (· != "b")).LooksLike
        (o.narrow fun line => line != "a" && line != "b") ∧
      (o.narrow (· != "a")).note = none ∧ (kept.run actions "o").LooksLike o := by
  intro log o part kept actions
  have htargets : ∀ action ∈ actions, action.target ≠ "o" := by
    simp [actions, Action.target]
  obtain ⟨hmerge, htwice, hnote, hsources⟩ := looksLike_narrow o part (· != "a") (· != "b")
  exact ⟨htargets, hmerge, htwice, hnote o _, hsources kept actions "o" htargets⟩

end Outcome

end Strata
