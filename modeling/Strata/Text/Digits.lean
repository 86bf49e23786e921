/-!
Digits in the radices from 2 to 16, of either case where they are letters.
-/

namespace Strata.Text

/-- The value of a hexadecimal digit, of either case. -/
def hexValue? (c : Char) : Option Nat :=
  if c.isDigit then some (c.toNat - '0'.toNat)
  else if 'a' ≤ c ∧ c ≤ 'f' then some (c.toNat - 'a'.toNat + 10)
  else if 'A' ≤ c ∧ c ≤ 'F' then some (c.toNat - 'A'.toNat + 10)
  else none

/-- The value of a digit in a radix, `none` if the radix has no such digit. -/
def digitValue? (radix : Nat) (c : Char) : Option Nat := (hexValue? c).filter (· < radix)

/-- The two hexadecimal digits of a number below 256, in lower case. -/
def hexPair (n : Nat) : List Char := [Nat.digitChar (n / 16), Nat.digitChar (n % 16)]

/-- The number that digits stand for, the first being the most significant. -/
def ofDigits (radix : Nat) (digits : List Nat) : Nat := digits.foldl (fun n d => n * radix + d) 0

end Strata.Text
