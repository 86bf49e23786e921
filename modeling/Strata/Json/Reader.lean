import Strata.Datum.Decode
import Strata.Json

/-!
Reading JSON, one character at a time.

A `Reader` holds the lexeme it is in, what it expects next, and the containers that are still open,
the innermost first. `Reader.feed` takes one more character, `Document.ofJson` feeds a whole text
and closes what is left open. A character that does not fit stops the reader for good.

White space is blank, tab, line feed and carriage return only. Strings may not hold control
characters. Numbers have no leading zeros, and digits on both sides of a point.
-/

namespace Strata.Json

/-! ### Numbers -/

/-- How far a number has been read. -/
inductive Numeral where
  /-- A sign. -/
  | minus
  /-- A zero before the point, after which no digit may come. -/
  | zero (negative : Bool)
  /-- Digits before the point, the first of them no zero. -/
  | whole (negative : Bool) (value : Nat)
  /-- The point. -/
  | point
  /-- Digits after the point. -/
  | fraction
  /-- The letter of the exponent. -/
  | mark
  /-- The sign of the exponent. -/
  | sign
  /-- Digits of the exponent. -/
  | exponent

namespace Numeral

/-- The number that begins with a character. -/
def start (c : Char) : Option Numeral :=
  if c = '-' then some minus
  else if c = '0' then some (zero false)
  else if c.isDigit then some (whole false (c.toNat - '0'.toNat))
  else none

/-- The parts that may follow the digits before the point. -/
def afterWhole (c : Char) : Option Numeral :=
  if c = '.' then some point else if c = 'e' ∨ c = 'E' then some mark else none

/-- The number with one more character, `none` if that cannot belong to it. -/
def extend (c : Char) : Numeral → Option Numeral
  | minus =>
    if c = '0' then some (zero true)
    else if c.isDigit then some (whole true (c.toNat - '0'.toNat)) else none
  | zero _ => afterWhole c
  | whole negative n =>
    if c.isDigit then some (whole negative (n * 10 + (c.toNat - '0'.toNat))) else afterWhole c
  | point => if c.isDigit then some fraction else none
  | fraction =>
    if c.isDigit then some fraction else if c = 'e' ∨ c = 'E' then some mark else none
  | mark =>
    if c.isDigit then some exponent else if c = '+' ∨ c = '-' then some sign else none
  | sign => if c.isDigit then some exponent else none
  | exponent => if c.isDigit then some exponent else none

/-- The number, if it may end here. A zero after which a digit comes may not. -/
def value? (next : Option Char) : Numeral → Option Datum
  | zero negative =>
    if next.any Char.isDigit then none else some (if negative then .amount else .natural 0)
  | whole negative n => some (if negative then .amount else .natural n)
  | fraction => some .amount
  | exponent => some .amount
  | _ => none

end Numeral

/-! ### Strings -/

/-- What the next character of a string means. -/
inductive StringMode where
  | plain
  /-- After a backslash. -/
  | escape
  /-- After `count` of the four digits of a code unit. -/
  | unit (count : Nat) (value : Nat)

/-- How far a string has been read: its characters, the last first; whether half of a surrogate
pair stood alone; and the first half of a pair, if that came last. -/
structure Quote where
  chars : List Char
  garbled : Bool
  half : Option Nat
  mode : StringMode

namespace Quote

/-- The string just opened. -/
def start : Quote := ⟨[], false, none, .plain⟩

/-- The string with one more character; a first half before it stays alone. -/
def push (q : Quote) (c : Char) : Quote := ⟨c :: q.chars, q.garbled || q.half.isSome, none, .plain⟩

/-- The string with one more code unit, which may be half of a surrogate pair. -/
def pushUnit (q : Quote) (u : Nat) : Quote :=
  if 0xD800 ≤ u ∧ u < 0xDC00 then ⟨q.chars, q.garbled || q.half.isSome, some u, .plain⟩
  else if 0xDC00 ≤ u ∧ u < 0xE000 then
    match q.half with
    | some h =>
      let c := Char.ofNat (0x10000 + (h - 0xD800) * 0x400 + (u - 0xDC00))
      ⟨c :: q.chars, q.garbled, none, .plain⟩
    | none => ⟨q.chars, true, none, .plain⟩
  else q.push (Char.ofNat u)

/-- The character that an escape stands for. -/
def unescape? (c : Char) : Option Char :=
  if c = '"' ∨ c = '\\' ∨ c = '/' then some c
  else if c = 'b' then some '\x08'
  else if c = 'f' then some '\x0c'
  else if c = 'n' then some '\n'
  else if c = 'r' then some '\r'
  else if c = 't' then some '\t'
  else none

/-- The text of the string, `none` if half of a surrogate pair stands alone in it. -/
def text? (q : Quote) : Option String :=
  if q.garbled || q.half.isSome then none else some (String.ofList q.chars.reverse)

/-- What one more character makes of an open string. -/
inductive Step where
  | inside (q : Quote)
  | finished (text : Option String)
  | stuck

/-- One more character of an open string. -/
def feed (q : Quote) (c : Char) : Step :=
  match q.mode with
  | .plain =>
    if c = '"' then .finished q.text?
    else if c = '\\' then .inside { q with mode := .escape }
    else if c.toNat < 0x20 then .stuck
    else .inside (q.push c)
  | .escape =>
    if c = 'u' then .inside { q with mode := .unit 0 0 }
    else match unescape? c with
      | some e => .inside (q.push e)
      | none => .stuck
  | .unit count value =>
    match Text.hexValue? c with
    | none => .stuck
    | some d =>
      let value := value * 16 + d
      if count < 3 then .inside { q with mode := .unit (count + 1) value }
      else .inside (q.pushUnit value)

end Quote

/-! ### Documents -/

/-- What is being read. -/
inductive Lexeme where
  | between
  | number (numeral : Numeral)
  | quote (q : Quote)
  /-- A word whose letters `rest` are still to come, and what it means. -/
  | word (rest : List Char) (meaning : Datum)

/-- What may come next, outside a lexeme. -/
inductive Expects where
  /-- A value, or the end of the list if it has just been opened. -/
  | value (opened : Bool)
  /-- A key, or the end of the table if it has just been opened. -/
  | key (opened : Bool)
  | colon
  /-- A comma, or the end of the list or table. -/
  | comma
  /-- Nothing but blanks. -/
  | nothing
  deriving DecidableEq

/-- An open list with its items, or an open table with its entries and the key that waits for its
value; what came last is first. -/
inductive Frame where
  | list (items : List Datum)
  | table (entries : List (Option String × Datum)) (key : Option (Option String))

/-- A reader in the middle of a text. -/
structure Reader where
  lexeme : Lexeme
  expects : Expects
  /-- The open lists and tables, the innermost first. -/
  frames : List Frame
  /-- The value of the whole text, once it has ended. -/
  root : Option Datum
  /-- Whether a character that does not fit has come. -/
  stopped : Bool

namespace Reader

/-- Before the first character. -/
def start : Reader := ⟨.between, .value false, [], none, false⟩

/-- The reader after a character that does not fit. -/
def stop (r : Reader) : Reader := { r with stopped := true }

/-- The reader after a complete value. -/
def accept (r : Reader) (d : Datum) : Reader :=
  match r.frames with
  | [] => ⟨.between, .nothing, [], some d, r.stopped⟩
  | .list items :: fs => ⟨.between, .comma, .list (d :: items) :: fs, r.root, r.stopped⟩
  | .table entries (some key) :: fs =>
    ⟨.between, .comma, .table ((key, d) :: entries) none :: fs, r.root, r.stopped⟩
  | .table _ none :: _ => r.stop

/-- The reader after a complete string, which is a key or a value. -/
def acceptString (r : Reader) (text : Option String) : Reader :=
  match r.expects, r.frames with
  | .key _, .table entries _ :: fs =>
    ⟨.between, .colon, .table entries (some text) :: fs, r.root, r.stopped⟩
  | _, _ => r.accept (match text with | some s => .string s | none => .garbled)

/-- White space. -/
def isBlank (c : Char) : Bool := c = ' ' || c = '\t' || c = '\n' || c = '\r'

/-- The words, each with its meaning. -/
def words : List (List Char × Datum) :=
  [(['t', 'r', 'u', 'e'], .bool true), (['f', 'a', 'l', 's', 'e'], .bool false),
   (['n', 'u', 'l', 'l'], .null)]

/-- The reader with the first character of a value, other than a string. -/
def openValue (r : Reader) (c : Char) : Reader :=
  if c = '[' then { r with expects := .value true, frames := .list [] :: r.frames }
  else if c = openBrace then { r with expects := .key true, frames := .table [] none :: r.frames }
  else match Numeral.start c with
    | some n => { r with lexeme := .number n }
    | none =>
      match words.find? fun w => w.1.head? = some c with
      | some (letters, meaning) => { r with lexeme := .word letters.tail meaning }
      | none => r.stop

/-- The reader with the comma after an item or entry. -/
def comma (r : Reader) : Reader :=
  match r.expects, r.frames with
  | .comma, .list _ :: _ => { r with expects := .value false }
  | .comma, .table _ _ :: _ => { r with expects := .key false }
  | _, _ => r.stop

/-- The reader with the end of a list. -/
def closeList (r : Reader) : Reader :=
  match r.frames with
  | .list items :: fs =>
    if r.expects = .comma ∨ r.expects = .value true then
      { r with frames := fs }.accept (.list items.reverse true)
    else r.stop
  | _ => r.stop

/-- The reader with the end of a table. -/
def closeTable (r : Reader) : Reader :=
  match r.frames with
  | .table entries _ :: fs =>
    if r.expects = .comma ∨ r.expects = .key true then
      { r with frames := fs }.accept (.table entries.reverse true)
    else r.stop
  | _ => r.stop

/-- One more character outside a lexeme. -/
def feedBetween (r : Reader) (c : Char) : Reader :=
  if isBlank c then r
  else if c = ',' then r.comma
  else if c = ']' then r.closeList
  else if c = closeBrace then r.closeTable
  else match r.expects with
    | .value _ => if c = '"' then { r with lexeme := .quote .start } else r.openValue c
    | .key _ => if c = '"' then { r with lexeme := .quote .start } else r.stop
    | .colon => if c = ':' then { r with expects := .value false } else r.stop
    | _ => r.stop

/-- The reader after the end of a number. -/
def settle (r : Reader) (n : Numeral) (next : Option Char) : Reader :=
  match n.value? next with
  | some d => { r with lexeme := .between }.accept d
  | none => r.stop

/-- One more character. -/
def feed (r : Reader) (c : Char) : Reader :=
  if r.stopped then r
  else match r.lexeme with
    | .between => r.feedBetween c
    | .quote q =>
      match q.feed c with
      | .inside q => { r with lexeme := .quote q }
      | .finished text => { r with lexeme := .between }.acceptString text
      | .stuck => r.stop
    | .word rest meaning =>
      match rest with
      | [] => r.stop
      | l :: rest =>
        if c ≠ l then r.stop
        else if rest.isEmpty then { r with lexeme := .between }.accept meaning
        else { r with lexeme := .word rest meaning }
    | .number n =>
      match n.extend c with
      | some n => { r with lexeme := .number n }
      | none =>
        let r := r.settle n (some c)
        if r.stopped then r else r.feedBetween c

/-- The value of a text that ends inside the given frames, with `d` for the innermost value. -/
def close : List Frame → Datum → Datum
  | [], d => d
  | .list items :: fs, d => close fs (.list (d :: items).reverse false)
  | .table entries (some key) :: fs, d => close fs (.table ((key, d) :: entries).reverse false)
  | .table entries none :: fs, _ => close fs (.table entries.reverse false)

/-- The document, if the text ends here. -/
def finish (r : Reader) : Document :=
  let r := match r.lexeme with
    | .number n => if r.stopped then r else r.settle n none
    | _ => r
  match r.root with
  | some d => ⟨d, !r.stopped⟩
  | none => ⟨close r.frames .fault, false⟩

end Reader

end Strata.Json

namespace Strata.Document

/-- What a JSON text says. -/
def ofJson (text : String) : Document :=
  (text.toList.foldl Json.Reader.feed .start).finish

/-- The whole document decoded; something after its end is complained about last. -/
def decode {α : Type} (f : Datum → Decoded α) (doc : Document) : Decoded α := do
  let a ← f doc.root
  if doc.complete then pure a else throw .malformed

end Strata.Document
