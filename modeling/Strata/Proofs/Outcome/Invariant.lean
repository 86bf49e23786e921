import Strata.Payload.Plain
import Strata.Proofs.EventLog.Recording
import Strata.Proofs.Outcome.Named
import Strata.Proofs.Outcome.Violations

/-!
What holds of all outcomes, whatever a client does with them. Outcomes are counted by counting what
they hold, and cutting one records what it holds once more in a log with a limit, so all of this
depends on there being nothing but violations (`Outcome.Reached`). Whether a narrowed event is one
is decided anew by every look at it, from the event inside it. Main statement: `isSound_run`, each
action leads from outcomes that are so to outcomes that are so, and changes one of them only.
-/

namespace Strata

section

variable [Kinds]

/-! ### Violations that are recorded once more -/

namespace EventLog

/-- Of further violations a log keeps the first, as many as it has room for, after what is there. -/
lemma toList_addAll_of_isViolation {log : EventLog} {es : List Event}
    (h : ∀ e ∈ es, e.isViolation = true) :
    (log.addAll es).toList = log.toList ++ limited log.room es := by
  induction es generalizing log with
  | nil => simp
  | cons e es ih =>
      obtain ⟨he, hes⟩ := List.forall_mem_cons.mp h
      rw [addAll_cons, ih hes, toList_add, room_add_of_isViolation he]
      by_cases hf : log.isFull
      · simp [he, hf, isFull_iff.mp hf]
      · rw [limited_cons fun hroom => hf (isFull_iff.mpr hroom)]
        simp [he, hf]

/-- A log takes in violations that are recorded in it, in order: each one is kept and counted, or
left out and counted. -/
structure TakesIn (log : EventLog) (es : List Event) : Prop where
  toList_eq : (log.addAll es).toList = log.toList ++ limited log.room es
  violations_eq : (log.addAll es).violations = (log.addAll es).violating.length
  violations_le : ∀ n ∈ log.limit, (log.addAll es).violations ≤ n
  sum_eq : (log.addAll es).violations + (log.addAll es).omitted =
    log.violations + log.omitted + es.length

lemma takesIn_applyAll (limit : Option Nat) (steps : List Step) {es : List Event}
    (h : ∀ e ∈ es, e.isViolation = true) : ((withLimit limit).applyAll steps).TakesIn es := by
  -- the events are further steps, so the log is one that was filled from the start still
  have hsteps : ((withLimit limit).applyAll steps).addAll es =
      (withLimit limit).applyAll (steps ++ es.map .add) := by
    rw [applyAll, applyAll, List.foldl_append, List.foldl_map]
    rfl
  have hlimit : ((withLimit limit).applyAll steps).limit = limit := by
    rw [applyAll_eq]
    exact limit_addAll _ _
  have hbefore := violations_withLimit_applyAll limit steps
  have hafter := violations_withLimit_applyAll limit (steps ++ es.map .add)
  refine ⟨toList_addAll_of_isViolation h, by rw [hsteps, hafter], fun n hn => ?_, ?_⟩
  · obtain rfl : limit = some n := hlimit.symm.trans hn
    rw [hsteps, hafter, violating_withLimit_applyAll, limited_some]
    exact List.length_take_le _ _
  · have hsum := omitted_addAll ((withLimit limit).applyAll steps) es
    rw [List.countP_eq_length.mpr h, ← hbefore, hsteps, ← hafter, ← hsteps] at hsum
    omega

end EventLog

/-! ### Outcomes -/

namespace Outcome

/-- An outcome holds violations only. So it counts what it holds, a log in which they are recorded
once more counts every single one, and there are no more of them in what is made of it. -/
structure IsSound (o : Outcome) : Prop where
  isViolation : ∀ e ∈ o.violations, e.isViolation = true
  count_eq : o.count = o.violations.countP (·.isViolation)
  hasViolation_iff : o.hasViolation = true ↔ 0 < o.count
  takesIn : ∀ limit steps, ((EventLog.withLimit limit).applyAll steps).TakesIn o.violations
  count_narrow_le : ∀ keep, (o.narrow keep).count ≤ o.count
  count_limitTo : ∀ limit, (o.limitTo limit).count = min limit o.count

lemma OnlyViolations.isSound {o : Outcome} (h : o.OnlyViolations) : o.IsSound where
  isViolation := h
  count_eq := h.countP_eq.symm
  hasViolation_iff := by rw [hasViolation_iff, count, List.length_pos_iff]
  takesIn limit steps := EventLog.takesIn_applyAll limit steps h
  count_narrow_le keep :=
    calc (o.narrow keep).count
        = ((o.violations.map (Event.narrowed keep)).filter Event.isViolation).length := by
          rw [count, violations_narrow]
      _ ≤ (o.violations.map (Event.narrowed keep)).length := List.length_filter_le _ _
      _ = o.count := List.length_map _
  count_limitTo limit := by
    rw [count, violations_limitTo, h.filter_eq, List.length_take, count]

end Outcome

/-! ### Everything a client does -/

namespace Outcomes

/-- New outcomes, without violations. -/
def fresh (rule : String) (priority : Priority) : Outcomes := fun _ => .empty rule priority

variable {kept : Outcomes}

/-- What an action makes of outcomes that were made from logs is made from logs. -/
lemma reached_act (h : ∀ name, Outcome.Reached (kept name)) (action : Outcome.Action)
    (name : String) : Outcome.Reached (kept.act action name) := by
  by_cases hname : action.target = name
  · subst hname
    rw [act_target]
    cases action with
    | ofLog target rule log priority => exact .ofLog rule log priority
    | copy target source => exact h source
    | merge target part => exact .merge (h target) (h part)
    | narrow target source keep => exact .narrow keep (h source)
    | limitTo target source limit => exact .limitTo limit (h source)
  · rw [act_of_ne hname]
    exact h name

lemma reached_run (h : ∀ name, Outcome.Reached (kept name)) (actions : List Outcome.Action)
    (name : String) : Outcome.Reached (kept.run actions name) := by
  induction actions generalizing kept with
  | nil => exact h name
  | cons action actions ih => exact ih (reached_act h action)

/-- **Outcomes are sound** after any actions, and one more action changes its target only. -/
theorem isSound_run (rule : String) (priority : Priority) (actions : List Outcome.Action) :
    (∀ name, ((fresh rule priority).run actions name).IsSound) ∧
      ∀ action : Outcome.Action, (fresh rule priority).run (actions ++ [action]) =
        Function.update ((fresh rule priority).run actions) action.target
          (action.make ((fresh rule priority).run actions)) := by
  have hfresh : ∀ name, Outcome.Reached (fresh rule priority name) := fun name =>
    .ofLog rule .empty priority
  refine ⟨fun name => (reached_run hfresh actions name).onlyViolations.isSound, fun action => ?_⟩
  rw [run, List.foldl_append]
  rfl

end Outcomes

end

namespace Outcomes

/-- An outcome may be merged with itself, and cutting it leaves it as it is. -/
example :
    let log := EventLog.empty.addAll [.simple [] false ["a"], .simple [] true ["b"]]
    let kept := (fresh "r" .low).run
      [.ofLog "whole" "r" log .high, .merge "whole" "whole", .limitTo "part" "whole" 1]
    (kept "whole").count = 2 ∧ (kept "part").count = 1 ∧
      (kept "part").note = some "2 times, only the first 1 are listed" := by
  decide

end Outcomes

end Strata
