import Strata.Payload.Plain
import Strata.Proofs.EventLog.Recording
import Strata.Proofs.Outcome.Named
import Strata.Proofs.Outcome.Violations

/-!
A limit on the log and a cut of the outcome. The first drops violations as they come and counts
them; the second records the violations of a complete outcome once more in a log with a limit and
lets an older note win. Main statement: `ofLog_withLimit_applyAll`, both lead to the same outcome,
whatever is done to the log, and of several cuts the narrowest counts.
-/

namespace Strata.Outcome

section

variable [Kinds]

/-! ### Cutting again -/

/-- Of two cuts the narrower one decides what is left. -/
lemma violations_limitTo_limitTo (a b : Nat) (o : Outcome) :
    ((o.limitTo a).limitTo b).violations = (o.limitTo (min a b)).violations := by
  have hcut : (o.limitTo a).violations.filter (·.isViolation) = (o.limitTo a).violations :=
    (onlyViolations_limitTo a o).filter_eq
  rw [violations_limitTo b, hcut, violations_limitTo, violations_limitTo, List.take_take,
    Nat.min_comm]

/-- A second cut at the same place finds nothing to cut and has nothing to note. -/
lemma limitTo_limitTo (limit : Nat) (o : Outcome) :
    (o.limitTo limit).limitTo limit = o.limitTo limit := by
  refine Outcome.ext rfl rfl ?_ ?_
  · rw [violations_limitTo_limitTo, Nat.min_self]
  · have hcount : (o.limitTo limit).violations.countP (·.isViolation) ≤ limit := by
      rw [(onlyViolations_limitTo limit o).countP_eq, count, violations_limitTo]
      exact List.length_take_le _ _
    have hnone : EventLog.limitNote (some limit)
        ((o.limitTo limit).violations.countP (·.isViolation)) = none := by
      rw [EventLog.limitNote_some, if_pos hcount]
    rw [note_limitTo limit (o.limitTo limit), hnone, Option.or_none]

/-! ### Cutting while recording -/

/-- A log with a limit makes the outcome that a log without one makes, cut to the limit. -/
lemma ofLog_withLimit_applyAll (limit : Nat) (steps : List EventLog.Step) (rule : String)
    (priority : Priority) :
    ofLog rule ((EventLog.withLimit (some limit)).applyAll steps) priority =
      (ofLog rule (EventLog.empty.applyAll steps) priority).limitTo limit := by
  have hall : (ofLog rule (EventLog.empty.applyAll steps) priority).violations =
      (EventLog.Step.events steps).filter (·.isViolation) :=
    EventLog.violating_withLimit_applyAll none steps
  have hnote : (ofLog rule (EventLog.empty.applyAll steps) priority).note =
      EventLog.Step.lastNote? steps :=
    (EventLog.note_withLimit_applyAll none steps).trans Option.or_none
  refine Outcome.ext rfl rfl ?_ ?_
  · calc ((EventLog.withLimit (some limit)).applyAll steps).violating
        = ((EventLog.Step.events steps).filter (·.isViolation)).take limit :=
          EventLog.violating_withLimit_applyAll (some limit) steps
      _ = ((ofLog rule (EventLog.empty.applyAll steps) priority).limitTo limit).violations := by
          rw [violations_limitTo, (onlyViolations_ofLog _ _ _).filter_eq, hall]
  · calc ((EventLog.withLimit (some limit)).applyAll steps).note
        = (EventLog.Step.lastNote? steps).or
            (EventLog.limitNote (some limit) (EventLog.Step.violationCount steps)) :=
          EventLog.note_withLimit_applyAll (some limit) steps
      _ = ((ofLog rule (EventLog.empty.applyAll steps) priority).limitTo limit).note := by
          rw [note_limitTo, hnote, (onlyViolations_ofLog _ _ _).countP_eq, count, hall,
            EventLog.Step.violationCount, List.countP_eq_length_filter]

/-- **Capping while collecting is cutting afterwards**, whatever is recorded and noted. A cut is an
outcome of its own and leaves the one that it was made from as it is; of two cuts the narrower one
decides what is left, and a cut that is made twice is made once, the note included. -/
theorem ofLog_capped (steps : List EventLog.Step) (rule : String) (priority : Priority)
    (limit a b : Nat) (o : Outcome) :
    ofLog rule ((EventLog.withLimit (some limit)).applyAll steps) priority =
        (ofLog rule (EventLog.empty.applyAll steps) priority).limitTo limit ∧
      (∀ (kept : Outcomes) (target source : String), target ≠ source →
        kept.act (.limitTo target source limit) target = (kept source).limitTo limit ∧
          kept.act (.limitTo target source limit) source = kept source) ∧
      ((o.limitTo a).limitTo b).violations = (o.limitTo (min a b)).violations ∧
      (o.limitTo a).limitTo a = o.limitTo a := by
  refine ⟨ofLog_withLimit_applyAll limit steps rule priority, fun kept target source hapart => ?_,
    violations_limitTo_limitTo a b o, limitTo_limitTo a o⟩
  exact ⟨kept.act_target (.limitTo target source limit), Outcomes.act_of_ne hapart⟩

end

/-- A log of three violations, one of them turned round, and of an event that was a violation
before; the note was set between them. -/
theorem ofLog_capped_noted :
    let steps : List EventLog.Step := [.add (.simple [] false ["b"]),
      .addInverse (.simple [] true ["a"]), .setNote "many", .addInverse (.simple [] false ["d"]),
      .add (.simple [] false ["c"])]
    let whole := ofLog "r" (EventLog.empty.applyAll steps) .high
    let kept : Outcomes := fun _ => whole
    ("part" : String) ≠ "whole" ∧
      ofLog "r" ((EventLog.withLimit (some 2)).applyAll steps) .high = whole.limitTo 2 ∧
      kept.act (.limitTo "part" "whole" 2) "part" = whole.limitTo 2 ∧
      kept.act (.limitTo "part" "whole" 2) "whole" = whole ∧
      ((whole.limitTo 3).limitTo 1).violations = (whole.limitTo (min 3 1)).violations ∧
      (whole.limitTo 3).limitTo 3 = whole.limitTo 3 := by
  intro steps whole kept
  have hapart : ("part" : String) ≠ "whole" := by decide
  obtain ⟨hcapped, hsource, hnarrower, htwice⟩ := ofLog_capped steps "r" .high 2 3 1 whole
  exact ⟨hapart, hcapped, (hsource kept "part" "whole" hapart).1,
    (hsource kept "part" "whole" hapart).2, hnarrower, htwice⟩

end Strata.Outcome
