import Mathlib.Tactic.Lemma
import Strata.EventLog

/-!
Limits: what a log keeps of the events that are recorded in it, and what it says of the others.

* `violating_addAll`: of further violations a log keeps the first, as many as it has `room` for;
* `omitted_addAll`: every violation is kept or counted as left out;
* `note_withLimit_addAll`: the note of a log that was filled from the start says how many violations
  there were in all, and stands there exactly if some are missing.
-/

namespace Strata

/-! ### The first entries of a list -/

section Limited

variable {α : Type}

/-- The first `limit` entries of a list, all of them if there is no limit. -/
def limited : Option Nat → List α → List α
  | none, l => l
  | some n, l => l.take n

@[simp] lemma limited_none (l : List α) : limited none l = l := rfl

@[simp] lemma limited_some (n : Nat) (l : List α) : limited (some n) l = l.take n := rfl

@[simp] lemma limited_nil (limit : Option Nat) : limited limit ([] : List α) = [] := by
  cases limit <;> simp

/-- An entry counts against the limit, unless there was no place for it. -/
lemma limited_cons {limit : Option Nat} (h : limit ≠ some 0) (a : α) (l : List α) :
    limited limit (a :: l) = a :: limited (limit.map (· - 1)) l := by
  cases limit with
  | none => rfl
  | some n =>
      obtain ⟨k, rfl⟩ := Nat.exists_eq_succ_of_ne_zero (n := n) (by simpa using h)
      simp

/-- Something is kept if there is something and a place for it. -/
lemma limited_eq_nil_iff {limit : Option Nat} (h : limit ≠ some 0) {l : List α} :
    limited limit l = [] ↔ l = [] := by
  cases l with
  | nil => simp
  | cons a l => simp [limited_cons h]

lemma limited_sublist (limit : Option Nat) (l : List α) : (limited limit l).Sublist l := by
  cases limit with
  | none => exact List.Sublist.refl l
  | some n => exact List.take_sublist n l

/-- How many of `total` entries are among the first `limit`. -/
def allowance (limit : Option Nat) (total : Nat) : Nat := limit.elim total (min · total)

lemma limited_eq_take (limit : Option Nat) (l : List α) :
    limited limit l = l.take (allowance limit l.length) := by
  cases limit with
  | none => exact List.take_length.symm
  | some n => exact List.take_eq_take_min

lemma length_limited (limit : Option Nat) (l : List α) :
    (limited limit l).length = allowance limit l.length := by
  cases limit with
  | none => rfl
  | some n => exact List.length_take

end Limited

namespace EventLog

/-! ### The note about a limit -/

/-- What is said of `total` violations of which at most `limit` are kept. -/
def limitNote (limit : Option Nat) (total : Nat) : Option String :=
  limit.bind fun n => if n < total then some (truncationNote total n) else none

lemma limitNote_some (m total : Nat) :
    limitNote (some m) total =
      if total ≤ m then none
      else some (toString total ++ " times, only the first " ++ toString m ++ " are listed") := by
  by_cases h : m < total
  · rw [if_neg (by omega)]
    simp [limitNote, h, truncationNote]
  · rw [if_pos (by omega)]
    simp [limitNote, h]

lemma isSome_limitNote {n total : Nat} :
    (limitNote (some n) total).isSome = true ↔ n < total := by
  by_cases h : n < total <;> simp [limitNote, h]

/-! ### Recording one event -/

variable [Kinds]

/-- How many more violations a log keeps, `none` if there is no limit. -/
def room (log : EventLog) : Option Nat := log.limit.map (· - log.violations)

@[simp] lemma room_withLimit (limit : Option Nat) : (withLimit limit).room = limit := by
  cases limit <;> rfl

lemma isFull_iff {log : EventLog} : log.isFull = true ↔ log.room = some 0 := by
  cases h : log.limit <;> simp [isFull, room, h, Nat.sub_eq_zero_iff_le]

lemma violating_add (log : EventLog) (e : Event) :
    (log.add e).violating =
      if e.isViolation && !log.isFull then log.violating ++ [e] else log.violating := by
  rw [violating, toList_add]
  by_cases hv : e.isViolation <;> by_cases hf : log.isFull <;> simp [violating, hv, hf]

/-- A violation takes a place, if there is one. -/
lemma room_add_of_isViolation {log : EventLog} {e : Event} (h : e.isViolation = true) :
    (log.add e).room = log.room.map (· - 1) := by
  by_cases hf : log.isFull
  · have hroom : log.room = some 0 := isFull_iff.mp hf
    rw [hroom]
    simpa [add, h, hf, room] using hroom
  · simp [add, h, hf, room, Function.comp_def, Nat.sub_sub]

/-- What is no violation takes no place. -/
lemma room_add_of_not_isViolation {log : EventLog} {e : Event} (h : ¬ e.isViolation = true) :
    (log.add e).room = log.room := by
  simp [add, h, room]

lemma allowed_add (log : EventLog) (e : Event) :
    (log.add e).allowed = log.allowed ++ [e].filter (!·.isViolation) := by
  rw [allowed, toList_add]
  by_cases hv : e.isViolation <;> by_cases hf : log.isFull <;> simp [allowed, hv, hf]

/-- A log that counts the violations it keeps goes on doing so. -/
lemma violations_add {log : EventLog} (h : log.violations = log.violating.length) (e : Event) :
    (log.add e).violations = (log.add e).violating.length := by
  rw [violating_add]
  by_cases hv : e.isViolation <;> by_cases hf : log.isFull <;> simp [add, hv, hf, h]

lemma explicitNote_add (log : EventLog) (e : Event) :
    (log.add e).explicitNote = log.explicitNote := by
  simp only [add, apply_ite EventLog.explicitNote, ite_self]

/-- One more violation is one more that is kept or one more that is left out. -/
lemma omitted_add (log : EventLog) (e : Event) :
    (log.add e).omitted + (log.add e).violating.length =
      log.omitted + log.violating.length + [e].countP (·.isViolation) := by
  rw [violating_add]
  by_cases hv : e.isViolation <;> by_cases hf : log.isFull <;> simp [add, hv, hf] <;> omega

/-! ### Recording several events -/

@[simp] lemma addAll_nil (log : EventLog) : log.addAll [] = log := rfl

@[simp] lemma addAll_cons (log : EventLog) (e : Event) (es : List Event) :
    log.addAll (e :: es) = (log.add e).addAll es := rfl

lemma addAll_append (log : EventLog) (es fs : List Event) :
    log.addAll (es ++ fs) = (log.addAll es).addAll fs := List.foldl_append

lemma limit_addAll (log : EventLog) (es : List Event) : (log.addAll es).limit = log.limit := by
  induction es generalizing log with
  | nil => rfl
  | cons e es ih => rw [addAll_cons, ih, limit_add]

lemma explicitNote_addAll (log : EventLog) (es : List Event) :
    (log.addAll es).explicitNote = log.explicitNote := by
  induction es generalizing log with
  | nil => rfl
  | cons e es ih => rw [addAll_cons, ih, explicitNote_add]

/-- Without a limit every event is kept. -/
lemma toList_addAll {log : EventLog} (h : log.limit = none) (es : List Event) :
    (log.addAll es).toList = log.toList ++ es := by
  induction es generalizing log with
  | nil => simp
  | cons e es ih =>
      have hfull : log.isFull = false := by simp [isFull, h]
      rw [addAll_cons, ih (by rw [limit_add, h]), toList_add]
      simp [hfull]

/-- **What a log keeps**: of further violations the first, as many as there is room for. -/
lemma violating_addAll (log : EventLog) (es : List Event) :
    (log.addAll es).violating = log.violating ++ limited log.room (es.filter (·.isViolation)) := by
  induction es generalizing log with
  | nil => simp
  | cons e es ih =>
      rw [addAll_cons, ih, violating_add]
      by_cases hv : e.isViolation
      · rw [room_add_of_isViolation hv, List.filter_cons_of_pos hv]
        by_cases hf : log.isFull
        · simp [hf, isFull_iff.mp hf]
        · rw [limited_cons fun h => hf (isFull_iff.mpr h)]
          simp [hv, hf]
      · rw [room_add_of_not_isViolation hv, List.filter_cons_of_neg hv]
        simp [hv]

lemma violations_addAll {log : EventLog} (h : log.violations = log.violating.length)
    (es : List Event) : (log.addAll es).violations = (log.addAll es).violating.length := by
  induction es generalizing log with
  | nil => exact h
  | cons e es ih => exact ih (violations_add h e)

/-- What is no violation is kept in any case. -/
lemma allowed_addAll (log : EventLog) (es : List Event) :
    (log.addAll es).allowed = log.allowed ++ es.filter (!·.isViolation) := by
  induction es generalizing log with
  | nil => simp
  | cons e es ih =>
      rw [addAll_cons, ih, allowed_add, List.append_assoc, ← List.filter_append,
        List.singleton_append]

/-- **No violation goes unnoticed**: each one is kept or counted as left out. -/
lemma omitted_addAll (log : EventLog) (es : List Event) :
    (log.addAll es).omitted + (log.addAll es).violating.length =
      log.omitted + log.violating.length + es.countP (·.isViolation) := by
  induction es generalizing log with
  | nil => simp
  | cons e es ih =>
      rw [addAll_cons, ih, omitted_add, Nat.add_assoc, ← List.countP_append, List.singleton_append]

/-! ### A log that is filled from the start -/

lemma violating_withLimit_addAll (limit : Option Nat) (es : List Event) :
    ((withLimit limit).addAll es).violating = limited limit (es.filter (·.isViolation)) := by
  rw [violating_addAll, room_withLimit]
  rfl

/-- What is left out is what goes beyond the limit. -/
lemma omitted_withLimit_addAll (limit : Option Nat) (es : List Event) :
    ((withLimit limit).addAll es).omitted =
      es.countP (·.isViolation) - allowance limit (es.countP (·.isViolation)) := by
  have hsum := omitted_addAll (withLimit limit) es
  have hstart : (withLimit limit).omitted = 0 ∧ (withLimit limit).violating = [] := ⟨rfl, rfl⟩
  rw [violating_withLimit_addAll, length_limited, ← List.countP_eq_length_filter, hstart.1,
    hstart.2, List.length_nil] at hsum
  omega

/-- **What a log says**: how many violations there were, if it could not keep them all. -/
lemma note_withLimit_addAll (limit : Option Nat) (es : List Event) :
    ((withLimit limit).addAll es).note = limitNote limit (es.countP (·.isViolation)) := by
  have hnote : ((withLimit limit).addAll es).explicitNote = none := explicitNote_addAll _ es
  have hlimit : ((withLimit limit).addAll es).limit = limit := limit_addAll _ es
  rw [note, hnote, hlimit]
  cases limit with
  | none => rfl
  | some n =>
      have homitted : ((withLimit (some n)).addAll es).omitted =
          es.countP (·.isViolation) - min n (es.countP (·.isViolation)) :=
        omitted_withLimit_addAll (some n) es
      simp only [limitNote, Option.bind_some]
      by_cases h : n < es.countP (·.isViolation)
      · -- what was left out is what goes beyond the limit, so the sum in the note is the total
        rw [if_pos h, if_neg (by omega),
          show n + ((withLimit (some n)).addAll es).omitted = es.countP (·.isViolation) by omega]
      · rw [if_neg h, if_pos (by omega)]

end EventLog

end Strata
