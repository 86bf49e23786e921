import Strata.Command.Check
import Strata.Proofs.Success

/-!
Sessions on files that stay as they are. A session there has one result, and it comes to a value iff
each of its steps does (`Session.ends_bind`). What is told on the way decides nothing.
-/

namespace Strata.Session

variable {α β : Type}

/-- A session, after some lines have been told, comes to a value. -/
def Ends (c : Session Id α) (told : List Progress) (a : α) : Prop := (c.run.run told).1 = .ok a

/-- The lines that have been told after a session. -/
def told (c : Session Id α) (before : List Progress) : List Progress := (c.run.run before).2

lemma ends_bind {c : Session Id α} {f : α → Session Id β} {before : List Progress} {b : β} :
    Ends (c >>= f) before b ↔ ∃ a, Ends c before a ∧ Ends (f a) (told c before) b := by
  simp only [Ends, told, ExceptT.run_bind, StateT.run_bind]
  generalize c.run.run before = ending
  obtain ⟨fault | a, after⟩ := ending
  · show Except.error fault = Except.ok b ↔ _
    simp
  · simp [bind]

lemma ends_pure {a b : α} {before : List Progress} :
    Ends (pure a : Session Id α) before b ↔ a = b := by
  show Except.ok a = Except.ok b ↔ a = b
  simp

lemma ends_throw {fault : Failure} {before : List Progress} {b : α} :
    ¬ Ends (throw fault : Session Id α) before b := nofun

lemma ends_tell_bind {lines before : List Progress} {c : Session Id α} {a : α} :
    Ends (do tell lines; c) before a ↔ Ends c (before ++ lines) a := Iff.rfl

/-- What decides however much has been told decides whether or not more is told. -/
lemma ends_ite_tell_bind {b : Bool} {lines before : List Progress} {c : Session Id α} {a : α}
    {P : Prop} (h : ∀ before, Ends c before a ↔ P) :
    Ends (if b = true then do tell lines; c else c) before a ↔ P := by
  split
  · exact ends_tell_bind.trans (h _)
  · exact h before

lemma ends_liftExcept {r : Except Failure α} {before : List Progress} {b : α} :
    Ends (liftExcept r : Session Id α) before b ↔ r = .ok b := by
  cases r <;> rfl

/-- What is done with files succeeds in itself and tells nothing. -/
lemma ends_liftM_bind {c : Id α} {f : α → Session Id β} {before : List Progress} {b : β} :
    Ends (liftM c >>= f) before b ↔ Ends (f c.run) before b := Iff.rfl

/-- A file is loaded iff it can be read and its text makes sense. -/
lemma ends_load {ε : Type} {files : Files Id} {parse : String → Except ε α}
    {thing reading path : String} {message : ε → String} {before : List Progress} {a : α} :
    Ends (Command.load files parse thing reading message path) before a ↔
      ∃ text, (files.read path).run = .ok text ∧ parse text = .ok a := by
  rw [Command.load]
  refine ends_liftM_bind.trans ?_
  cases hread : (files.read path).run with
  | error fault =>
      have hload : (files.load parse path).run = .error (.file path fault) := by
        simp only [Files.load, Id.run_bind, hread]
        rfl
      rw [hload]
      simp [ends_throw]
  | ok text =>
      have hload : (files.load parse path).run = (parse text).mapError .content := by
        simp only [Files.load, Id.run_bind, hread]
        rfl
      rw [hload]
      cases h : parse text <;> simp [Except.mapError, ends_throw, ends_pure, h]

end Strata.Session
