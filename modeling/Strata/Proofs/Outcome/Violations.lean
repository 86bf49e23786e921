import Strata.Outcome
import Strata.Proofs.EventLog.Limit

/-!
What becomes of the violations of outcomes.

An outcome is made from a log, and outcomes are merged, narrowed and cut (`Reached`). Each of these
records the violations in a log once more, so what is kept depends on their being violations still.
Main statements: all that an outcome ever holds are violations (`Reached.onlyViolations`); merging
appends them (`violations_mergeAll`), cutting takes the first (`violations_cut`), and a note stands
for what was cut off (`note_cut`).
-/

namespace Strata.Outcome

variable [Kinds]

attribute [ext] Outcome

lemma hasViolation_iff {o : Outcome} : o.hasViolation = true ↔ o.violations ≠ [] := by
  simp [hasViolation]

/-! ### From a log that was filled from the start -/

lemma violations_ofLog_addAll (rule : String) (limit : Option Nat) (es : List Event)
    (priority : Priority) :
    (ofLog rule ((EventLog.withLimit limit).addAll es) priority).violations =
      limited limit (es.filter (·.isViolation)) :=
  EventLog.violating_withLimit_addAll limit es

lemma note_ofLog_addAll (rule : String) (limit : Option Nat) (es : List Event)
    (priority : Priority) :
    (ofLog rule ((EventLog.withLimit limit).addAll es) priority).note =
      EventLog.limitNote limit (es.countP (·.isViolation)) :=
  EventLog.note_withLimit_addAll limit es

/-! ### Nothing but violations -/

/-- All that an outcome holds are violations. -/
def OnlyViolations (o : Outcome) : Prop := ∀ e ∈ o.violations, e.isViolation = true

lemma onlyViolations_ofLog (rule : String) (log : EventLog) (priority : Priority) :
    (ofLog rule log priority).OnlyViolations := fun _ he => (List.mem_filter.mp he).2

lemma OnlyViolations.merge {o part : Outcome} (ho : o.OnlyViolations)
    (hpart : part.OnlyViolations) : (o.merge part).OnlyViolations := by
  intro e he
  rcases List.mem_append.mp he with h | h
  · exact ho e h
  · exact hpart e h

lemma onlyViolations_narrow (keep : String → Bool) (o : Outcome) :
    (o.narrow keep).OnlyViolations := onlyViolations_ofLog _ _ _

lemma onlyViolations_limitTo (limit : Nat) (o : Outcome) : (o.limitTo limit).OnlyViolations :=
  onlyViolations_ofLog o.rule _ o.priority

lemma OnlyViolations.filter_eq {o : Outcome} (h : o.OnlyViolations) :
    o.violations.filter (·.isViolation) = o.violations := List.filter_eq_self.mpr h

lemma OnlyViolations.countP_eq {o : Outcome} (h : o.OnlyViolations) :
    o.violations.countP (·.isViolation) = o.count := List.countP_eq_length.mpr h

/-- The outcomes that are made from logs, by merging, by narrowing and by cutting. -/
inductive Reached : Outcome → Prop where
  | ofLog (rule : String) (log : EventLog) (priority : Priority) :
      Reached (.ofLog rule log priority)
  | merge {o part : Outcome} (ho : Reached o) (hpart : Reached part) : Reached (o.merge part)
  | narrow (keep : String → Bool) {o : Outcome} (ho : Reached o) : Reached (o.narrow keep)
  | limitTo (limit : Nat) {o : Outcome} (ho : Reached o) : Reached (o.limitTo limit)

/-- **Outcomes hold violations only**, however they were made. -/
theorem Reached.onlyViolations {o : Outcome} (h : Reached o) : o.OnlyViolations := by
  induction h with
  | ofLog rule log priority => exact onlyViolations_ofLog rule log priority
  | merge _ _ ho hpart => exact ho.merge hpart
  | narrow keep _ _ => exact onlyViolations_narrow keep _
  | limitTo limit _ _ => exact onlyViolations_limitTo limit _

/-! ### Merging -/

/-- The outcome with the violations of several others appended. -/
def mergeAll (o : Outcome) (parts : List Outcome) : Outcome := parts.foldl merge o

lemma mergeAll_cons (o part : Outcome) (parts : List Outcome) :
    o.mergeAll (part :: parts) = (o.merge part).mergeAll parts := rfl

@[simp] lemma rule_mergeAll (o : Outcome) (parts : List Outcome) :
    (o.mergeAll parts).rule = o.rule := by
  induction parts generalizing o with
  | nil => rfl
  | cons part parts ih => rw [mergeAll_cons, ih]; rfl

@[simp] lemma priority_mergeAll (o : Outcome) (parts : List Outcome) :
    (o.mergeAll parts).priority = o.priority := by
  induction parts generalizing o with
  | nil => rfl
  | cons part parts ih => rw [mergeAll_cons, ih]; rfl

lemma violations_mergeAll (o : Outcome) (parts : List Outcome) :
    (o.mergeAll parts).violations = o.violations ++ parts.flatMap violations := by
  induction parts generalizing o with
  | nil => simp [mergeAll]
  | cons part parts ih => rw [mergeAll_cons, ih, violations_merge, List.flatMap_cons,
      List.append_assoc]

/-- The first note is the one that stays. -/
lemma note_mergeAll (o : Outcome) (parts : List Outcome) :
    (o.mergeAll parts).note = o.note.or (parts.findSome? note) := by
  induction parts generalizing o with
  | nil => simp [mergeAll]
  | cons part parts ih =>
      have hmerge : (o.merge part).note = o.note.or part.note := rfl
      rw [mergeAll_cons, ih, hmerge, Option.or_assoc, List.findSome?_cons]
      cases part.note <;> rfl

lemma OnlyViolations.mergeAll {o : Outcome} {parts : List Outcome} (ho : o.OnlyViolations)
    (hparts : ∀ part ∈ parts, part.OnlyViolations) : (o.mergeAll parts).OnlyViolations := by
  induction parts generalizing o with
  | nil => exact ho
  | cons part parts ih =>
      rw [mergeAll_cons]
      exact ih (ho.merge (hparts part (by simp))) fun p hp => hparts p (by simp [hp])

/-! ### Cutting -/

lemma violations_limitTo (limit : Nat) (o : Outcome) :
    (o.limitTo limit).violations = (o.violations.filter (·.isViolation)).take limit :=
  violations_ofLog_addAll o.rule (some limit) o.violations o.priority

lemma note_limitTo (limit : Nat) (o : Outcome) :
    (o.limitTo limit).note =
      o.note.or (EventLog.limitNote (some limit) (o.violations.countP (·.isViolation))) :=
  congrArg o.note.or (note_ofLog_addAll o.rule (some limit) o.violations o.priority)

/-- The outcome cut to a number of violations, if there is a limit. -/
def cut (limit : Option Nat) (o : Outcome) : Outcome := limit.elim o o.limitTo

@[simp] lemma cut_none (o : Outcome) : o.cut none = o := rfl

@[simp] lemma rule_cut (limit : Option Nat) (o : Outcome) : (o.cut limit).rule = o.rule := by
  cases limit <;> rfl

@[simp] lemma priority_cut (limit : Option Nat) (o : Outcome) :
    (o.cut limit).priority = o.priority := by
  cases limit <;> rfl

lemma violations_cut {o : Outcome} (h : o.OnlyViolations) (limit : Option Nat) :
    (o.cut limit).violations = limited limit o.violations := by
  cases limit with
  | none => rfl
  | some n => rw [cut, Option.elim_some, violations_limitTo, h.filter_eq, limited_some]

/-- A note that is there already stays, although the cut may have its own to make. -/
lemma note_cut {o : Outcome} (h : o.OnlyViolations) (limit : Option Nat) :
    (o.cut limit).note = o.note.or (EventLog.limitNote limit o.count) := by
  cases limit with
  | none => simp [cut, EventLog.limitNote]
  | some n => rw [cut, Option.elim_some, note_limitTo, h.countP_eq]

lemma OnlyViolations.cut {o : Outcome} (h : o.OnlyViolations) (limit : Option Nat) :
    (o.cut limit).OnlyViolations := by
  cases limit with
  | none => exact h
  | some n => exact onlyViolations_limitTo n o

/-! ### Narrowing -/

lemma violations_narrow (keep : String → Bool) (o : Outcome) :
    (o.narrow keep).violations =
      (o.violations.map (.narrowed keep)).filter (·.isViolation) :=
  violations_ofLog_addAll o.rule none _ o.priority

lemma note_narrow (keep : String → Bool) (o : Outcome) : (o.narrow keep).note = none :=
  note_ofLog_addAll o.rule none _ o.priority

end Strata.Outcome
