/-!
Dictionaries: finite maps from names to values, which remember the order in which names came.

No name occurs twice; that is part of the type. Main statements: `get?_insert_self` and
`get?_insert_of_ne`, which describe insertion by what `get?` finds.
-/

namespace Strata

/-- A finite map from names to values, in the order in which the names were first inserted. -/
structure Dictionary (α : Type) where
  entries : List (String × α)
  nodup : (entries.map Prod.fst).Nodup

namespace Dictionary

variable {α : Type}

/-- The dictionary without names. -/
def empty : Dictionary α := ⟨[], by simp⟩

instance : Inhabited (Dictionary α) := ⟨empty⟩

/-- The names, in order. -/
def keys (d : Dictionary α) : List String := d.entries.map Prod.fst

/-- The value of a name. -/
def get? (d : Dictionary α) (name : String) : Option α := d.entries.lookup name

/-- Whether a name has a value. -/
def has (d : Dictionary α) (name : String) : Bool := d.keys.contains name

/-- The entries with `name` set: in its old place if it had one, else at the end. -/
def put (name : String) (value : α) : List (String × α) → List (String × α)
  | [] => [(name, value)]
  | (n, v) :: rest => if n = name then (name, value) :: rest else (n, v) :: put name value rest

theorem mem_keys_put {name n : String} {value : α} {l : List (String × α)} :
    n ∈ (put name value l).map Prod.fst ↔ n = name ∨ n ∈ l.map Prod.fst := by
  induction l with
  | nil => simp [put]
  | cons e rest ih =>
    obtain ⟨m, v⟩ := e
    by_cases h : m = name
    · subst h; simp [put]
    · simp only [put, h, if_false, List.map_cons, List.mem_cons, ih]
      grind

theorem nodup_put {name : String} {value : α} {l : List (String × α)}
    (h : (l.map Prod.fst).Nodup) : ((put name value l).map Prod.fst).Nodup := by
  induction l with
  | nil => simp [put]
  | cons e rest ih =>
    obtain ⟨m, v⟩ := e
    simp only [List.map_cons, List.nodup_cons] at h
    by_cases hm : m = name
    · subst hm; simpa [put] using h
    · simp only [put, hm, if_false, List.map_cons, List.nodup_cons, mem_keys_put]
      exact ⟨by grind, ih h.2⟩

/-- The dictionary with `name` set to `value`. -/
def insert (d : Dictionary α) (name : String) (value : α) : Dictionary α :=
  ⟨put name value d.entries, nodup_put d.nodup⟩

/-- The dictionary with the given entries; of two with one name the later value counts. -/
def ofList (entries : List (String × α)) : Dictionary α :=
  entries.foldl (fun d e => d.insert e.1 e.2) empty

theorem get?_insert_self (d : Dictionary α) (name : String) (value : α) :
    (d.insert name value).get? name = some value := by
  suffices h : ∀ l : List (String × α), (put name value l).lookup name = some value from h _
  intro l
  induction l with
  | nil => simp [put]
  | cons e rest ih =>
    obtain ⟨m, v⟩ := e
    by_cases h : m = name
    · simp [put, h]
    · simp [put, h, List.lookup_cons, ih, beq_eq_false_iff_ne.2 (Ne.symm h)]

theorem get?_insert_of_ne {d : Dictionary α} {name n : String} {value : α} (h : n ≠ name) :
    (d.insert name value).get? n = d.get? n := by
  suffices h : ∀ l : List (String × α), (put name value l).lookup n = l.lookup n from h _
  intro l
  induction l with
  | nil => simp [put, List.lookup_cons, beq_eq_false_iff_ne.2 h]
  | cons e rest ih =>
    obtain ⟨m, v⟩ := e
    by_cases hm : m = name
    · simp [put, hm, List.lookup_cons, beq_eq_false_iff_ne.2 h]
    · simp [put, hm, List.lookup_cons, ih]

end Dictionary

end Strata
