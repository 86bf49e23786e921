import Mathlib.Data.List.Forall2
import Strata.Proofs.Outcome.Violations

/-!
Shortened outcomes. One outcome shortens another if it holds some of its violations, in the same
order, and has a note exactly if some are missing (`Shortens`). Logs with a limit, cutting and
merging all lead from shortened outcomes to shortened outcomes, so what is left out anywhere on the
way is noted in the end (`Shortens.cut`, `Shortens.mergeAll`).
-/

namespace Strata.Outcome

variable [Kinds]

/-- An outcome holds violations of another one, in order, and has a note exactly if some are
missing. -/
structure Shortens (full short : Outcome) : Prop where
  onlyViolations : short.OnlyViolations
  sublist : short.violations.Sublist full.violations
  isSome_note_iff : short.note.isSome = true ↔ short.count < full.count

namespace Shortens

lemma count_le {full short : Outcome} (h : Shortens full short) : short.count ≤ full.count :=
  h.sublist.length_le

/-- Any limit shortens what a log without limit keeps. -/
lemma ofLog_addAll (limit : Option Nat) (es : List Event) {rule rule' : String}
    {priority priority' : Priority} :
    Shortens (ofLog rule ((EventLog.withLimit none).addAll es) priority)
      (ofLog rule' ((EventLog.withLimit limit).addAll es) priority') where
  onlyViolations := onlyViolations_ofLog _ _ _
  sublist := by
    rw [violations_ofLog_addAll, violations_ofLog_addAll]
    exact limited_sublist limit _
  isSome_note_iff := by
    rw [note_ofLog_addAll, count, count, violations_ofLog_addAll, violations_ofLog_addAll,
      limited_none, ← List.countP_eq_length_filter]
    cases limit with
    | none => simp [EventLog.limitNote, List.countP_eq_length_filter]
    | some n =>
        rw [EventLog.isSome_limitNote, limited_some, List.length_take,
          ← List.countP_eq_length_filter]
        omega

lemma empty (rule rule' : String) (priority priority' : Priority) :
    Shortens (.empty rule priority) (.empty rule' priority') := ofLog_addAll none []

/-- A merged outcome misses something if one of the two does. -/
lemma merge {full short fullPart shortPart : Outcome} (h : Shortens full short)
    (hpart : Shortens fullPart shortPart) :
    Shortens (full.merge fullPart) (short.merge shortPart) where
  onlyViolations := h.onlyViolations.merge hpart.onlyViolations
  sublist := h.sublist.append hpart.sublist
  isSome_note_iff := by
    have hle := h.count_le
    have hlePart := hpart.count_le
    have hnote : (short.merge shortPart).note.isSome = true ↔
        short.count < full.count ∨ shortPart.count < fullPart.count := by
      rw [← h.isSome_note_iff, ← hpart.isSome_note_iff, ← Bool.or_eq_true, ← Option.isSome_or]
      rfl
    rw [hnote]
    simp only [count, violations_merge, List.length_append] at hle hlePart ⊢
    omega

lemma mergeAll {full short : Outcome} {fulls shorts : List Outcome} (h : Shortens full short)
    (hparts : List.Forall₂ Shortens fulls shorts) :
    Shortens (full.mergeAll fulls) (short.mergeAll shorts) := by
  induction hparts generalizing full short with
  | nil => exact h
  | cons hpart _ ih => exact ih (h.merge hpart)

/-- A cut that leaves something out makes a note, unless a note is there already. -/
lemma cut {full short : Outcome} (h : Shortens full short) (limit : Option Nat) :
    Shortens full (short.cut limit) where
  onlyViolations := h.onlyViolations.cut limit
  sublist := by
    rw [violations_cut h.onlyViolations]
    exact (limited_sublist limit _).trans h.sublist
  isSome_note_iff := by
    have hle := h.count_le
    have hiff := h.isSome_note_iff
    cases limit with
    | none => exact hiff
    | some n =>
        have hcount : (short.cut (some n)).count = min n short.count := by
          rw [count, violations_cut h.onlyViolations, limited_some, List.length_take, count]
        rw [note_cut h.onlyViolations, Option.isSome_or, Bool.or_eq_true, hiff,
          EventLog.isSome_limitNote, hcount]
        omega

end Shortens

end Strata.Outcome
