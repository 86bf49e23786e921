import Strata.Payload.Plain
import Strata.Proofs.EventLog.Limit

/-!
Whatever is done to a log. Events are recorded, opposites of events are recorded, and notes are set,
in any order (`Step`). Notes do not get in the way of events, so a log is what it would be without
them, but for its note (`applyAll_eq`). Main statement: `tallies_applyAll`, what a log holds, counts
and says in the end agrees with the steps (`Tallies`).
-/

namespace Strata.EventLog

section

variable [Kinds]

/-! ### Any log -/

/-- The violations and the other events share out the log. -/
lemma partition_toList (log : EventLog) :
    log.toList.partition (·.isViolation) = (log.violating, log.allowed) :=
  List.partition_eq_filter_filter

lemma size_eq (log : EventLog) : log.size = log.violating.length + log.allowed.length := by
  have hcount := List.length_eq_countP_add_countP (·.isViolation) (l := log.toList)
  have hsize : log.size = log.toList.length := Array.length_toList.symm
  rw [hsize]
  simpa [violating, allowed, List.countP_eq_length_filter] using hcount

lemma hasViolation_iff_violating {log : EventLog} :
    log.hasViolation = true ↔ log.violating ≠ [] := by
  simp [hasViolation, violating, List.filter_eq_nil_iff]

/-! ### Which events are kept -/

lemma isFull_add {log : EventLog} (h : log.isFull = true) (e : Event) :
    (log.add e).isFull = true := by
  by_cases hv : e.isViolation
  · rwa [add, if_pos hv, if_pos h]
  · rwa [add, if_neg hv]

/-- A full log keeps whatever is no violation. -/
lemma toList_addAll_of_isFull {log : EventLog} (h : log.isFull = true) (es : List Event) :
    (log.addAll es).toList = log.toList ++ es.filter (!·.isViolation) := by
  induction es generalizing log with
  | nil => simp
  | cons e es ih =>
      rw [addAll_cons, ih (isFull_add h e), toList_add]
      by_cases hv : e.isViolation <;> simp [hv, h]

/-- Up to some event a log keeps all, from then on all but the violations. -/
lemma exists_toList_addAll (log : EventLog) (es : List Event) :
    ∃ early late, es = early ++ late ∧
      (log.addAll es).toList = log.toList ++ (early ++ late.filter (!·.isViolation)) := by
  induction es generalizing log with
  | nil => exact ⟨[], [], rfl, by simp⟩
  | cons e es ih =>
      by_cases hdropped : (e.isViolation && log.isFull) = true
      · -- from here on the log is full
        obtain ⟨-, hf⟩ := Bool.and_eq_true_iff.mp hdropped
        exact ⟨[], e :: es, rfl, toList_addAll_of_isFull hf (e :: es)⟩
      · obtain ⟨early, late, rfl, hkept⟩ := ih (log.add e)
        refine ⟨e :: early, late, rfl, ?_⟩
        rw [addAll_cons, hkept, toList_add, if_neg hdropped]
        simp

/-- From the start, the violations among the early events are those that have a place. -/
lemma exists_toList_withLimit_addAll (limit : Option Nat) (es : List Event) :
    ∃ early late, es = early ++ late ∧
      early.countP (·.isViolation) = allowance limit (es.countP (·.isViolation)) ∧
      ((withLimit limit).addAll es).toList = early ++ late.filter (!·.isViolation) := by
  obtain ⟨early, late, hevents, hkept⟩ := exists_toList_addAll (withLimit limit) es
  rw [toList_withLimit, List.nil_append] at hkept
  refine ⟨early, late, hevents, ?_, hkept⟩
  have hlate : (late.filter (!·.isViolation)).filter (·.isViolation) = [] := by
    rw [List.filter_filter]
    exact List.filter_eq_nil_iff.mpr (by simp)
  have hearly : early.filter (·.isViolation) = limited limit (es.filter (·.isViolation)) :=
    calc early.filter (·.isViolation)
        = (early ++ late.filter (!·.isViolation)).filter (·.isViolation) := by
          rw [List.filter_append, hlate, List.append_nil]
      _ = ((withLimit limit).addAll es).violating := by rw [violating, hkept]
      _ = limited limit (es.filter (·.isViolation)) := violating_withLimit_addAll limit es
  rw [List.countP_eq_length_filter, hearly, length_limited, List.countP_eq_length_filter]

/-! ### Steps -/

/-- What can be done to a log. -/
inductive Step where
  /-- An event is recorded, a new one or one that another log holds too. -/
  | add (e : Event)
  /-- The opposite of an event is recorded. -/
  | addInverse (e : Event)
  | setNote (text : String)

namespace Step

/-- The event that a step records. -/
def event? : Step → Option Event
  | add e => some e
  | addInverse e => some e.inverse
  | setNote _ => none

/-- The note that a step sets. -/
def note? : Step → Option String
  | add _ => none
  | addInverse _ => none
  | setNote text => some text

/-- The events that steps record. -/
def events (steps : List Step) : List Event := steps.filterMap event?

/-- How many violations steps record. -/
def violationCount (steps : List Step) : Nat := (events steps).countP (·.isViolation)

/-- The note that was set last. -/
def lastNote? (steps : List Step) : Option String := (steps.filterMap note?).getLast?

lemma lastNote?_cons_setNote (text : String) (steps : List Step) (note : Option String) :
    (lastNote? (setNote text :: steps)).or note = (lastNote? steps).or (some text) := by
  have hcons : lastNote? (setNote text :: steps) =
      (text :: steps.filterMap note?).getLast? := rfl
  rw [hcons, List.getLast?_cons, lastNote?]
  cases (steps.filterMap note?).getLast? <;> rfl

end Step

/-- The log after a step. -/
def apply (log : EventLog) : Step → EventLog
  | .add e => log.add e
  | .addInverse e => log.add e.inverse
  | .setNote text => log.setNote text

/-- The log after several steps, one after the other. -/
def applyAll (log : EventLog) (steps : List Step) : EventLog := steps.foldl apply log

/-- The log with this explicit note, or without one. -/
def withNote (log : EventLog) (note : Option String) : EventLog := { log with explicitNote := note }

lemma add_withNote (log : EventLog) (note : Option String) (e : Event) :
    (log.withNote note).add e = (log.add e).withNote note := by
  have hfull : (log.withNote note).isFull = log.isFull := rfl
  by_cases hv : e.isViolation
  · by_cases hf : log.isFull
    · rw [add, add, hfull, if_pos hv, if_pos hf, if_pos hv, if_pos hf]
      rfl
    · rw [add, add, hfull, if_pos hv, if_neg hf, if_pos hv, if_neg hf]
      rfl
  · rw [add, add, if_neg hv, if_neg hv]
    rfl

lemma addAll_withNote (log : EventLog) (note : Option String) (es : List Event) :
    (log.withNote note).addAll es = (log.addAll es).withNote note := by
  induction es generalizing log with
  | nil => rfl
  | cons e es ih => rw [addAll_cons, add_withNote, ih, addAll_cons]

/-- **Notes and events do not mix**: the log is that of the events, with the last of the notes. -/
lemma applyAll_eq (log : EventLog) (steps : List Step) :
    log.applyAll steps =
      (log.addAll (Step.events steps)).withNote
        ((Step.lastNote? steps).or log.explicitNote) := by
  induction steps generalizing log with
  | nil => rfl
  | cons step steps ih =>
      have hcons : log.applyAll (step :: steps) = (log.apply step).applyAll steps := rfl
      rw [hcons, ih]
      cases step with
      | add e => rw [apply, explicitNote_add]; rfl
      | addInverse e => rw [apply, explicitNote_add]; rfl
      | setNote text =>
          rw [Step.lastNote?_cons_setNote]
          have happly : log.apply (.setNote text) = log.withNote (some text) := rfl
          rw [happly, addAll_withNote]
          rfl

/-- An explicit note wins over what the log has to say. -/
lemma note_withNote {log : EventLog} (h : log.explicitNote = none) (note : Option String) :
    (log.withNote note).note = note.or log.note := by
  cases note with
  | none => rw [EventLog.note, EventLog.note, h]; rfl
  | some text => rfl

/-! ### A log that takes steps from the start -/

section FromTheStart

variable (limit : Option Nat) (steps : List Step)

lemma violating_withLimit_applyAll :
    ((withLimit limit).applyAll steps).violating =
      limited limit ((Step.events steps).filter (·.isViolation)) := by
  rw [applyAll_eq]
  exact violating_withLimit_addAll limit _

lemma note_withLimit_applyAll :
    ((withLimit limit).applyAll steps).note =
      (Step.lastNote? steps).or (limitNote limit (Step.violationCount steps)) := by
  have hnone : ((withLimit limit).addAll (Step.events steps)).explicitNote = none :=
    explicitNote_addAll _ _
  rw [applyAll_eq, note_withNote hnone, note_withLimit_addAll]
  cases Step.lastNote? steps <;> rfl

lemma omitted_withLimit_applyAll :
    ((withLimit limit).applyAll steps).omitted =
      Step.violationCount steps - allowance limit (Step.violationCount steps) := by
  rw [applyAll_eq]
  exact omitted_withLimit_addAll limit (Step.events steps)

/-- The violations that are kept are those that are counted as kept. -/
lemma violations_withLimit_applyAll :
    ((withLimit limit).applyAll steps).violations =
      ((withLimit limit).applyAll steps).violating.length := by
  have hstart : (withLimit limit).violations = (withLimit limit).violating.length := rfl
  rw [applyAll_eq]
  exact violations_addAll hstart (Step.events steps)

end FromTheStart

/-- What a log with a limit holds, counts and says agrees with the steps that were taken. -/
structure Tallies (limit : Option Nat) (steps : List Step) (log : EventLog) : Prop where
  /-- In the order in which they came all events are there, up to the last violation that has a
  place under the limit; of later ones only those that are no violations. -/
  exists_toList : ∃ early late, Step.events steps = early ++ late ∧
    early.countP (·.isViolation) = allowance limit (Step.violationCount steps) ∧
    log.toList = early ++ late.filter (!·.isViolation)
  violating_eq : log.violating =
    ((Step.events steps).filter (·.isViolation)).take (allowance limit (Step.violationCount steps))
  allowed_eq : log.allowed = (Step.events steps).filter (!·.isViolation)
  partition_toList : log.toList.partition (·.isViolation) = (log.violating, log.allowed)
  violations_eq : log.violations = log.violating.length
  size_eq : log.size = log.violating.length + log.allowed.length
  hasViolation_iff : log.hasViolation = true ↔ log.violating ≠ []
  omitted_eq : log.omitted =
    Step.violationCount steps - allowance limit (Step.violationCount steps)
  note_eq : log.note = (Step.lastNote? steps).or (limit.bind fun n =>
    if n < Step.violationCount steps then
      some (toString (Step.violationCount steps) ++ " times, only the first " ++ toString n ++
        " are listed")
    else none)
  /-- The sum that the note tells is the number of violations, and in words of 64 bits it is still
  that number. -/
  limit_add_omitted : ∀ n ∈ limit, log.omitted ≠ 0 →
    n + log.omitted = Step.violationCount steps ∧
      (Step.violationCount steps < UInt64.size →
        (UInt64.ofNat n + UInt64.ofNat log.omitted).toNat = Step.violationCount steps)

omit [Kinds] in
/-- Numbers whose sum fits into a word of 64 bits are added in such words as they are. -/
lemma toNat_ofNat_add_ofNat {a b : Nat} (h : a + b < UInt64.size) :
    (UInt64.ofNat a + UInt64.ofNat b).toNat = a + b := by
  rw [UInt64.toNat_add, UInt64.toNat_ofNat', UInt64.toNat_ofNat', Nat.mod_add_mod, Nat.add_mod_mod,
    Nat.mod_eq_of_lt h]

/-- **The books balance** after any steps, whatever the limit. -/
theorem tallies_applyAll (limit : Option Nat) (steps : List Step) :
    Tallies limit steps ((withLimit limit).applyAll steps) where
  exists_toList := by
    rw [applyAll_eq]
    exact exists_toList_withLimit_addAll limit (Step.events steps)
  violating_eq := by
    rw [violating_withLimit_applyAll, limited_eq_take, Step.violationCount,
      List.countP_eq_length_filter]
  allowed_eq := by
    rw [applyAll_eq]
    exact allowed_addAll (withLimit limit) (Step.events steps)
  partition_toList := partition_toList _
  violations_eq := by
    have hstart : (withLimit limit).violations = (withLimit limit).violating.length := rfl
    rw [applyAll_eq]
    exact violations_addAll hstart (Step.events steps)
  size_eq := size_eq _
  hasViolation_iff := hasViolation_iff_violating
  omitted_eq := omitted_withLimit_applyAll limit steps
  note_eq := note_withLimit_applyAll limit steps
  limit_add_omitted n hn homitted := by
    obtain rfl : limit = some n := hn
    have hleft : ((withLimit (some n)).applyAll steps).omitted =
        Step.violationCount steps - min n (Step.violationCount steps) :=
      omitted_withLimit_applyAll (some n) steps
    have hsum : n + ((withLimit (some n)).applyAll steps).omitted = Step.violationCount steps := by
      omega
    refine ⟨hsum, fun hfits => ?_⟩
    rw [toNat_ofNat_add_ofNat (hsum ▸ hfits), hsum]

end

/-- Where no violation has a place, all are counted; the second event is none any more. -/
example :
    ((withLimit (some 0)).applyAll [.add (.simple [] false ["a"]),
      .addInverse (.simple [] false ["b"]), .addInverse (.simple [] true ["c"])]).note =
      some "2 times, only the first 0 are listed" := by
  decide

end Strata.EventLog
