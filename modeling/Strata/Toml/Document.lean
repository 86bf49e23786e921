import Strata.Datum.Decode
import Strata.Toml.Lexeme
import Strata.Toml.Table

/-!
TOML documents.

A document is a row of sections: keys with values, then headers with more of them. `Toml.parse?`
reads it into one table, or not at all; `Toml.decode` makes sense of that table.
-/

namespace Strata.Toml

/-! ### Values -/

/-- A key with its value: the parts before the last dot, the part after it, and the value. -/
structure Assignment where
  path : List String
  key : String
  value : Datum

/-- The table with keys and their values, one after the other. -/
def Table.assignAll (as : List Assignment) (t : Table) : Option Table :=
  as.foldlM (fun t a => t.assign a.path a.key a.value) t

/-- The parts of a key before the last dot, and the part after it. -/
def splitKey : Parser (List String × String) := do
  let parts ← key
  pure (parts.dropLast, parts.getLastD "")

/-- A key with its value. -/
def assignment (value : Parser Datum) : Parser Assignment := do
  let (path, key) ← splitKey
  Parser.char '='
  space
  return ⟨path, key, ← value⟩

/-- A list of values in brackets, over one line or several. A comma after the last is allowed. -/
def list (value : Parser Datum) : Parser Datum := do
  Parser.char '['
  let ds ← Parser.separated (blanks *> value <* blanks) (.char ',')
  if !ds.isEmpty then discard (optional (Parser.char ','))
  blanks
  Parser.char ']'
  pure (.list ds true)

/-- A table in braces, on one line. -/
def braced (value : Parser Datum) : Parser Datum := do
  Parser.char '\x7b'
  let as ← Parser.separated (assignment value <* space) (.char ',')
  space
  Parser.char '\x7d'
  let t ← liftM (Table.assignAll as [])
  pure t.toDatum

/-- A value in which brackets and braces are nested at most `depth` levels deep. -/
def value : Nat → Parser Datum
  | 0 => scalar
  | depth + 1 => scalar <|> list (value depth) <|> braced (value depth)

/-! ### Sections -/

/-- What a header introduces. -/
inductive Header where
  /-- A table. -/
  | table (path : List String) (key : String)
  /-- One more table in a list of tables. -/
  | item (path : List String) (key : String)

/-- A header in brackets, single or double. -/
def header : Parser Header := do
  Parser.char '['
  (do
    Parser.char '['
    let (path, key) ← splitKey
    Parser.word "]]"
    pure (.item path key))
    <|> (do
      let (path, key) ← splitKey
      Parser.char ']'
      pure (.table path key))

/-- Lines without content. -/
def emptyLines : Parser Unit :=
  discard (Parser.many (discard (.span1 isSpace) <|> newline <|> comment *> (newline <|> .finish)))

/-- A line of content, with the lines without content after it. -/
def line {α : Type} (p : Parser α) : Parser α := p <* lineEnd <* emptyLines

/-- The keys with values of one section. -/
def assignments : Parser (List Assignment) := .many (line (assignment (value maxDepth)))

/-- The table of a whole document. -/
def document : Parser Table := do
  discard (optional (Parser.char '\ufeff'))
  emptyLines
  let root ← liftM (Table.assignAll (← assignments) [])
  let sections ← Parser.many do return (← line header, ← assignments)
  liftM <| sections.foldlM (fun t (h, as) =>
    match h with
    | .table path key => t.define path key (Table.assignAll as)
    | .item path key => t.extend path key (Table.assignAll as)) root

/-- The table that a text describes. -/
def parse? (text : String) : Option Datum := (Parser.parse? document text).map Table.toDatum

/-- A value of type `α` from the text that describes it. -/
def decode {α : Type} (f : Datum → Decoded α) (text : String) : Decoded α :=
  match parse? text with
  | some d => f d
  | none => throw .malformed

end Strata.Toml
