/-!
Parsers: functions that read a value off the front of a text.

A parser returns the value and the rest of the text, or nothing. `p <|> q` tries `q` on the same
text if `p` has failed. `many` ends where its parser fails, and reads at most as many values as
there are characters, so that it ends even with a parser that reads nothing.
-/

namespace Strata

/-- A function that reads a value off the front of a text. -/
abbrev Parser (α : Type) := StateT (List Char) Option α

namespace Parser

variable {α β : Type}

/-- One character with a property. -/
def satisfy (p : Char → Bool) : Parser Char := fun s =>
  match s with
  | c :: rest => if p c then some (c, rest) else none
  | [] => none

/-- The character `c`. -/
def char (c : Char) : Parser Unit := discard (satisfy (· == c))

/-- The characters of `w`, one after the other. -/
def word (w : String) : Parser Unit := w.toList.forM char

/-- The longest run of characters with a property, which may be empty. -/
def span (p : Char → Bool) : Parser (List Char) := fun s => some (s.takeWhile p, s.dropWhile p)

/-- The longest run of characters with a property, of which there is at least one. -/
def span1 (p : Char → Bool) : Parser (List Char) := do
  let cs ← span p
  guard (!cs.isEmpty)
  pure cs

/-- The end of the text. -/
def finish : Parser Unit := do guard (← get).isEmpty

/-- Exactly `n` values. -/
def exactly : Nat → Parser α → Parser (List α)
  | 0, _ => pure []
  | n + 1, p => do return (← p) :: (← exactly n p)

/-- As many values as there are, but at most one for each of the characters. -/
def upTo : List Char → Parser α → Parser (List α)
  | [], _ => pure []
  | _ :: cs, p => (do return (← p) :: (← upTo cs p)) <|> pure []

/-- As many values as there are. -/
def many (p : Parser α) : Parser (List α) := do upTo (← get) p

/-- Values with a separator between neighbours, at least one. -/
def separated1 (p : Parser α) (separator : Parser β) : Parser (List α) := do
  return (← p) :: (← many (separator *> p))

/-- Values with a separator between neighbours. -/
def separated (p : Parser α) (separator : Parser β) : Parser (List α) :=
  separated1 p separator <|> pure []

/-- The value of a whole text. -/
def parse? (p : Parser α) (text : String) : Option α :=
  ((p <* finish).run text.toList).map Prod.fst

end Parser

end Strata
