import Strata.Datum

/-!
Tables under construction.

While a document is read, a table remembers how it came to be, for that decides what may still be
added to it: a table with a header of its own has all its keys under that header, a table that a
dotted key made can only be extended by dotted keys, and one that only stands on the way to another
may still get its own header. Values are never extended. `Table.assign` adds a key with a value,
`Table.define` and `Table.extend` add what a header introduces.
-/

namespace Strata.Toml

/-- How a table came to be. -/
inductive Making where
  /-- By its own header or braces. -/
  | header
  /-- On the way to a table with a header. -/
  | implied
  /-- On the way to a value with a dotted key. -/
  | dotted
  deriving DecidableEq

/-- What a key can stand for. -/
inductive Entry where
  | value (d : Datum)
  | table (made : Making) (entries : List (String × Entry))
  /-- A list of tables with a header each: the last, and those before it from the last to the
  first. -/
  | tables (last : List (String × Entry)) (earlier : List (List (String × Entry)))

/-- The entries of a table, in order. -/
abbrev Table := List (String × Entry)

mutual

/-- The data of an entry. -/
def Entry.toDatum : Entry → Datum
  | .value d => d
  | .table _ entries => .table (entriesToData entries) true
  | .tables last earlier =>
    .list (tablesToData earlier [.table (entriesToData last) true]) true

/-- The data of entries. -/
def entriesToData : List (String × Entry) → List (Option String × Datum)
  | [] => []
  | (key, e) :: rest => (some key, e.toDatum) :: entriesToData rest

/-- The data of tables from the last to the first, before the given ones. -/
def tablesToData : List (List (String × Entry)) → List Datum → List Datum
  | [], ds => ds
  | t :: earlier, ds => tablesToData earlier (.table (entriesToData t) true :: ds)

end

namespace Table

/-- The data of a table. -/
def toDatum (t : Table) : Datum := .table (entriesToData t) true

/-- The table with the entry of `key` replaced, or added at the end. -/
def put (key : String) (e : Entry) : Table → Table
  | [] => [(key, e)]
  | (k, old) :: rest => if k = key then (key, e) :: rest else (k, old) :: put key e rest

/-- The table without the entry of `key`. -/
def drop (key : String) (t : Table) : Table := t.filter (·.1 != key)

/-- Changes the table at the end of a path, given how it came to be. Tables on the way that do not
exist are made; of a list of tables the last one is meant. A dotted key may not lead through a
table with a header of its own. -/
def at? (making : Making) (change : Making → Table → Option Table) :
    List String → Making → Table → Option Table
  | [], made, t => change made t
  | key :: path, _, t =>
    match t.lookup key with
    | none => do return t.put key (.table making (← at? making change path making []))
    | some (.value _) => none
    | some (.table made entries) =>
      if making = .dotted ∧ made = .header then none
      else do return t.put key (.table made (← at? making change path made entries))
    | some (.tables last earlier) => do
      return t.put key (.tables (← at? making change path .header last) earlier)

/-- The table with a key and its value, which the table must not have yet. What stands before the
last dot of a key is a table that dotted keys have made. -/
def assign (path : List String) (key : String) (d : Datum) (t : Table) : Option Table :=
  at? .dotted
    (fun made t =>
      if (path ≠ [] ∧ made ≠ .dotted) ∨ (t.lookup key).isSome then none
      else some (t.put key (.value d)))
    path .header t

/-- The table with a header for `key` after a path. Beyond what the header introduces it has what
has been found on the way to other headers. -/
def define (path : List String) (key : String) (body : Table → Option Table) (t : Table) :
    Option Table :=
  at? .implied
    (fun _ t =>
      match t.lookup key with
      | none => do return t.put key (.table .header (← body []))
      | some (.table .implied entries) => do
        return (t.drop key).put key (.table .header (← body entries))
      | some _ => none)
    path .header t

/-- The table with one more item in the list of tables for `key` after a path. -/
def extend (path : List String) (key : String) (body : Table → Option Table) (t : Table) :
    Option Table :=
  at? .implied
    (fun _ t =>
      match t.lookup key with
      | none => do return t.put key (.tables (← body []) [])
      | some (.tables last earlier) => do
        return t.put key (.tables (← body []) (last :: earlier))
      | some _ => none)
    path .header t

end Table

end Strata.Toml
