/-!
Priorities: how much a violated rule matters.

Main statements: `parse?_key` and `parse?_label`, the words by which a priority is written in
settings and in reports are read back as that priority. Reading ignores the case of ASCII letters
and of no others.
-/

namespace Strata

/-- How much a violated rule matters, from worth knowing to must be fixed. -/
inductive Priority where
  | low
  | medium
  | high
  deriving DecidableEq

namespace Priority

/-- Rules that do not say otherwise have medium priority. -/
instance : Inhabited Priority := ⟨.medium⟩

/-- The place in the order of priorities, the least first. -/
def rank : Priority → Nat
  | low => 0
  | medium => 1
  | high => 2

instance : LE Priority := ⟨fun p q => p.rank ≤ q.rank⟩

instance (p q : Priority) : Decidable (p ≤ q) := inferInstanceAs (Decidable (p.rank ≤ q.rank))

/-- The upper-case name, as reports print it. -/
def label : Priority → String
  | low => "LOW"
  | medium => "MEDIUM"
  | high => "HIGH"

/-- The lower-case word, as settings and machine-readable reports write it. -/
def key : Priority → String
  | low => "low"
  | medium => "medium"
  | high => "high"

/-- The words of settings with what they mean, the least priority first. -/
def keyed : List (String × Priority) := [low, medium, high].map fun p => (p.key, p)

/-- The priority that a word names, whatever the case of its ASCII letters. -/
def parse? (word : String) : Option Priority :=
  keyed.lookup (String.ofList (word.toList.map Char.toLower))

/-- What is said of a word that names no priority. -/
def unknownMessage (word : String) : String :=
  "unknown priority `" ++ word ++ "`. Valid values: low, medium, high"

theorem parse?_key (p : Priority) : parse? p.key = some p := by
  cases p <;> decide +kernel

theorem parse?_label (p : Priority) : parse? p.label = some p := by
  cases p <;> decide +kernel

end Priority

end Strata
