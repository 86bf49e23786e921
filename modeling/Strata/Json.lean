import Strata.Datum
import Strata.Text.Digits

/-!
JSON: values to be written, and their two written forms.

`Json.compact` writes a value without blanks, `Json.pretty` one item a line with two blanks of
indentation a level. Both keep the order of members. `Json.toDatum` says what such a text means to
a reader.
-/

namespace Strata

/-- A value to be written. -/
inductive Json where
  | natural (value : Nat)
  | string (value : String)
  | array (items : List Json)
  | object (members : List (String × Json))

namespace Json

/-! ### Lexemes -/

/-- A character inside a string: quotes, backslashes and control characters are escaped, and
nothing else is. -/
def escaped (c : Char) : List Char :=
  if c = '"' then ['\\', '"']
  else if c = '\\' then ['\\', '\\']
  else if c = '\x08' then ['\\', 'b']
  else if c = '\t' then ['\\', 't']
  else if c = '\n' then ['\\', 'n']
  else if c = '\x0c' then ['\\', 'f']
  else if c = '\r' then ['\\', 'r']
  else if c.toNat < 0x20 then
    '\\' :: 'u' :: '0' :: '0' :: Text.hexPair c.toNat
  else [c]

/-- A quoted string. -/
def quote (s : List Char) : List Char := '"' :: s.flatMap escaped ++ ['"']

/-- A decimal number. -/
def digits (n : Nat) : List Char := Nat.toDigits 10 n

/-- The character that opens an object. -/
def openBrace : Char := '\x7b'

/-- The character that closes an object. -/
def closeBrace : Char := '\x7d'

/-! ### Without blanks -/

mutual

/-- A value without blanks. -/
def compactChars : Json → List Char
  | natural n => digits n
  | string s => quote s.toList
  | array items => '[' :: compactItems items ++ [']']
  | object members => openBrace :: compactMembers members ++ [closeBrace]

/-- Items with commas between them. -/
def compactItems : List Json → List Char
  | [] => []
  | [v] => compactChars v
  | v :: w :: rest => compactChars v ++ ',' :: compactItems (w :: rest)

/-- Members with commas between them. -/
def compactMembers : List (String × Json) → List Char
  | [] => []
  | [(k, v)] => quote k.toList ++ ':' :: compactChars v
  | (k, v) :: m :: rest =>
    quote k.toList ++ ':' :: compactChars v ++ ',' :: compactMembers (m :: rest)

end

/-- The text of a value, without blanks. -/
def compact (v : Json) : String := String.ofList v.compactChars

/-! ### One item a line -/

/-- A new line at a level of indentation. -/
def line (level : Nat) : List Char := '\n' :: List.replicate (2 * level) ' '

mutual

/-- A value at a level of indentation; what is empty stays on one line. -/
def prettyChars (level : Nat) : Json → List Char
  | natural n => digits n
  | string s => quote s.toList
  | array [] => ['[', ']']
  | array (v :: rest) => '[' :: prettyItems (level + 1) (v :: rest) ++ line level ++ [']']
  | object [] => [openBrace, closeBrace]
  | object (m :: rest) =>
    openBrace :: prettyMembers (level + 1) (m :: rest) ++ line level ++ [closeBrace]

/-- Items, each on a line of its own, with commas after all but the last. -/
def prettyItems (level : Nat) : List Json → List Char
  | [] => []
  | [v] => line level ++ prettyChars level v
  | v :: w :: rest => line level ++ prettyChars level v ++ ',' :: prettyItems level (w :: rest)

/-- Members, each on a line of its own, with commas after all but the last. -/
def prettyMembers (level : Nat) : List (String × Json) → List Char
  | [] => []
  | [(k, v)] => line level ++ quote k.toList ++ ':' :: ' ' :: prettyChars level v
  | (k, v) :: m :: rest =>
    line level ++ quote k.toList ++ ':' :: ' ' :: prettyChars level v
      ++ ',' :: prettyMembers level (m :: rest)

end

/-- The text of a value, one item a line. -/
def pretty (v : Json) : String := String.ofList (v.prettyChars 0)

/-! ### Meaning -/

mutual

/-- What a reader finds in the text of a value. -/
def toDatum : Json → Datum
  | natural n => .natural n
  | string s => .string s
  | array items => .list (toData items) true
  | object members => .table (toEntries members) true

/-- What a reader finds in the texts of items. -/
def toData : List Json → List Datum
  | [] => []
  | v :: rest => v.toDatum :: toData rest

/-- What a reader finds in the texts of members. -/
def toEntries : List (String × Json) → List (Option String × Datum)
  | [] => []
  | (k, v) :: rest => (some k, v.toDatum) :: toEntries rest

end

end Json

end Strata
