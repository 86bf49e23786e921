/-!
White space, as Unicode defines it (the property `White_Space`), and trimming. Core's
`Char.isWhitespace` stops at ASCII.
-/

namespace Strata.Text

/-- The ranges of code points with the property `White_Space`, both ends included. -/
def blankRanges : List (Nat × Nat) :=
  [(0x0009, 0x000D), (0x0020, 0x0020), (0x0085, 0x0085), (0x00A0, 0x00A0), (0x1680, 0x1680),
   (0x2000, 0x200A), (0x2028, 0x2029), (0x202F, 0x202F), (0x205F, 0x205F), (0x3000, 0x3000)]

/-- Whether a character is white space. -/
def isBlank (c : Char) : Bool :=
  blankRanges.any fun r => decide (r.1 ≤ c.toNat) && decide (c.toNat ≤ r.2)

/-- The characters without the blanks at both ends. -/
def trimChars (s : List Char) : List Char :=
  ((s.dropWhile isBlank).reverse.dropWhile isBlank).reverse

/-- The text without the blanks at both ends; blanks inside it stay. -/
def trim (s : String) : String := String.ofList (trimChars s.toList)

end Strata.Text
