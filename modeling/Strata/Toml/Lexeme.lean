import Strata.Datum
import Strata.Parser
import Strata.Text.Digits

/-!
The lexemes of TOML: blanks and comments, strings, keys, numbers and moments.

White space is blank and tab; a line ends with a line feed, with a carriage return before it or
without. Control characters other than tab are nowhere allowed. Of numbers only the whole ones from
zero on keep their value. Inside a text of several lines at most two quotes stand together.
-/

namespace Strata.Toml

/-! ### Blanks -/

/-- White space inside a line. -/
def isSpace (c : Char) : Bool := c == ' ' || c == '\t'

/-- Whether a character may stand in comments and texts: all but control characters, save tab. -/
def isPlain (c : Char) : Bool := c == '\t' || (decide (' ' ≤ c) && c != '\x7f')

/-- White space inside a line, if there is any. -/
def space : Parser Unit := discard (.span isSpace)

/-- The end of a line that is not the last. -/
def newline : Parser Unit := .char '\n' <|> .word "\r\n"

/-- A comment, up to the end of its line. -/
def comment : Parser Unit := .char '#' *> discard (.span isPlain)

/-- What may stand after the last thing on a line, up to and with the end of the line. -/
def lineEnd : Parser Unit := space *> discard (optional comment) *> (newline <|> .finish)

/-- Blanks, comments and new lines, if there are any. -/
def blanks : Parser Unit := discard (.many (discard (.span1 isSpace) <|> newline <|> comment))

/-! ### Strings -/

/-- Exactly `n` hexadecimal digits that number a character. -/
def codePoint (n : Nat) : Parser Char := do
  let ds ← Parser.exactly n (.satisfy fun c => (Text.hexValue? c).isSome)
  let code := Text.ofDigits 16 (ds.filterMap Text.hexValue?)
  guard (decide code.isValidChar)
  pure (.ofNat code)

/-- The characters that stand for others after a backslash. -/
def escapes : List (Char × Char) :=
  [('b', '\x08'), ('t', '\t'), ('n', '\n'), ('f', '\x0c'), ('r', '\r'), ('"', '"'), ('\\', '\\')]

/-- A character written with a backslash. -/
def escape : Parser Char := do
  Parser.char '\\'
  let c ← Parser.satisfy fun _ => true
  match escapes.lookup c with
  | some e => pure e
  | none => if c = 'u' then codePoint 4 else if c = 'U' then codePoint 8 else failure

/-- Characters of a text between quotes that stand for themselves. -/
def plainBetween (quote : Char) : Parser (List Char) :=
  .span1 fun c => isPlain c && c != quote && (quote != '"' || c != '\\')

/-- Text between two quotes, with escapes if the quotes are double ones. -/
def oneLine (quote : Char) : Parser (List Char) := do
  Parser.char quote
  let parts ← Parser.many
    (plainBetween quote <|> do guard (quote == '"'); return [← escape])
  Parser.char quote
  pure parts.flatten

/-- A backslash at the end of a line, with the blanks and new lines after it: it stands for
nothing. -/
def lineJoin : Parser Unit := do
  Parser.char '\\'
  space
  newline
  discard (Parser.many (discard (.span1 isSpace) <|> newline))

/-- One or two quotes, which do not end a text of several lines. -/
def looseQuotes (quote : Char) : Parser (List Char) := do
  let qs ← Parser.span1 (· == quote)
  if qs.length < 3 then pure qs else failure

/-- The end of a text of several lines. Up to two quotes before it belong to the text. -/
def closingQuotes (quote : Char) : Parser (List Char) := do
  let qs ← Parser.span1 (· == quote)
  guard (3 ≤ qs.length && qs.length ≤ 5)
  pure (qs.drop 3)

/-- Text of several lines between triple quotes. A new line right after the quotes is left out, and
all others are line feeds. -/
def manyLines (quote : Char) : Parser (List Char) := do
  let _ ← Parser.exactly 3 (.char quote)
  discard (optional newline)
  let parts ← Parser.many <|
    plainBetween quote <|> looseQuotes quote <|> newline *> pure ['\n']
      <|> do guard (quote == '"'); lineJoin *> pure [] <|> return [← escape]
  return parts.flatten ++ (← closingQuotes quote)

/-- A text in any of its four notations. -/
def text : Parser String :=
  String.ofList <$> (manyLines '"' <|> oneLine '"' <|> manyLines '\'' <|> oneLine '\'')

/-! ### Keys -/

/-- Characters of a key that is written without quotes. -/
def isBare (c : Char) : Bool := c.isAlphanum || c == '_' || c == '-'

/-- One part of a key. -/
def keyPart : Parser String :=
  String.ofList <$> (.span1 isBare <|> oneLine '"' <|> oneLine '\'')

/-- How deep a document may be nested, by keys or by brackets. -/
def maxDepth : Nat := 79

/-- A key with its parts, dots between them. -/
def key : Parser (List String) := do
  let parts ← Parser.separated1 (space *> keyPart <* space) (.char '.')
  guard (parts.length ≤ maxDepth)
  pure parts

/-! ### Numbers -/

/-- One digit. -/
def digit (radix : Nat) : Parser Nat := do
  let c ← Parser.satisfy fun c => (Text.digitValue? radix c).isSome
  (Text.digitValue? radix c).elim failure pure

/-- Digits, with single underscores between them or without. -/
def digits (radix : Nat) : Parser (List Nat) := do
  let first ← digit radix
  let others ← Parser.many (optional (.char '_') *> digit radix)
  pure (first :: others)

/-- Decimal digits of which the first is no zero, unless it is the only one. -/
def wholeDigits : Parser (List Nat) := do
  let ds ← digits 10
  guard (ds.length = 1 || ds.head? != some 0)
  pure ds

/-- Whether there is a minus. -/
def sign : Parser Bool := .char '-' *> pure true <|> .char '+' *> pure false <|> pure false

/-- Half of the numbers of 64 bits. -/
def integerBound : Nat := UInt64.size / 2

/-- A number below the bound, in another radix than ten. -/
def basedInteger : Parser Datum := do
  let n ← Text.ofDigits 16 <$> (.word "0x" *> digits 16)
    <|> Text.ofDigits 8 <$> (.word "0o" *> digits 8)
    <|> Text.ofDigits 2 <$> (.word "0b" *> digits 2)
  guard (n < integerBound)
  pure (.natural n)

/-- A number from minus the bound on and below the bound. -/
def decimalInteger : Parser Datum := do
  let negative ← sign
  let n := Text.ofDigits 10 (← wholeDigits)
  guard (n < integerBound || negative && n == integerBound)
  pure (if negative && n != 0 then .amount else .natural n)

/-- Whether `digits * 10 ^ exponent` is less than all numbers that double precision rounds to
infinity. -/
def isFinite (digits : List Nat) (exponent : Int) : Bool :=
  let significant := digits.dropWhile (· == 0)
  let magnitude := significant.length + exponent
  if significant.isEmpty || magnitude < 309 then true
  else if magnitude > 309 then false
  else
    let n := Text.ofDigits 10 significant
    decide (n * Nat.pow 10 exponent.toNat
      < (Nat.pow 2 1024 - Nat.pow 2 970) * Nat.pow 10 (-exponent).toNat)

/-- The part of a number after the letter `e`. -/
def exponent : Parser Int := do
  Parser.char 'e' <|> Parser.char 'E'
  let negative ← sign
  let n := Text.ofDigits 10 (← digits 10)
  pure (if negative then -n else n)

/-- A number with a point, an exponent or both. A positive one has to be finite. -/
def pointed : Parser Datum := do
  let negative ← sign
  let whole ← wholeDigits
  let (fraction, e) ←
    (do return ([], ← exponent))
      <|> (do
        Parser.char '.'
        return (← digits 10, ← exponent <|> pure 0))
  guard (negative || isFinite (whole ++ fraction) (e - fraction.length))
  pure .amount

/-- Infinity, or what is no number. -/
def special : Parser Datum := sign *> (.word "inf" <|> .word "nan") *> pure .amount

/-! ### Dates and times -/

/-- A number of exactly `count` digits, within bounds. -/
def fixedWidth (count least greatest : Nat) : Parser Nat := do
  let n := Text.ofDigits 10 (← Parser.exactly count (digit 10))
  guard (least ≤ n && n ≤ greatest)
  pure n

/-- The number of days in a month. -/
def daysIn (year month : Nat) : Nat :=
  if month = 2 then if year % 4 = 0 ∧ (year % 100 ≠ 0 ∨ year % 400 = 0) then 29 else 28
  else if month = 4 ∨ month = 6 ∨ month = 9 ∨ month = 11 then 30
  else 31

/-- A day of the calendar. -/
def date : Parser Unit := do
  let year ← fixedWidth 4 0 9999
  Parser.char '-'
  let month ← fixedWidth 2 1 12
  Parser.char '-'
  discard (fixedWidth 2 1 (daysIn year month))

/-- A time of day, with a leap second perhaps. -/
def time : Parser Unit := do
  discard (fixedWidth 2 0 23)
  Parser.char ':'
  discard (fixedWidth 2 0 59)
  Parser.char ':'
  discard (fixedWidth 2 0 60)
  discard (optional (Parser.char '.' *> Parser.span1 Char.isDigit))

/-- A distance from universal time. -/
def offset : Parser Unit :=
  .char 'Z' <|> .char 'z' <|> do
    Parser.char '+' <|> Parser.char '-'
    discard (fixedWidth 2 0 23)
    Parser.char ':'
    discard (fixedWidth 2 0 59)

/-- A date, a time of day, or both with an offset or without. -/
def moment : Parser Datum :=
  (do
    date
    discard <| optional do
      discard (Parser.satisfy fun c => c == 'T' || c == 't' || c == ' ')
      time
      optional offset
    pure .moment)
    <|> time *> pure .moment

/-! ### All of them -/

/-- A truth value. -/
def truth : Parser Datum :=
  .word "true" *> pure (.bool true) <|> .word "false" *> pure (.bool false)

/-- A value without parts. -/
def scalar : Parser Datum :=
  .string <$> text <|> truth <|> moment <|> pointed <|> special <|> basedInteger <|> decimalInteger

end Strata.Toml
