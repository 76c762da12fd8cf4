/-!
# Hexadecimal numbers

Characters are named by their numbers in base sixteen, in quoted text and in escapes.
-/

namespace StatusRouter.Text

/-- The lower-case hexadecimal digits of a number, without padding. -/
def hex (n : Nat) : List Char :=
  Nat.toDigits 16 n

/-- The value of a hexadecimal digit. -/
def hexValue? (c : Char) : Option Nat :=
  if c.isDigit then some (c.toNat - 48)
  else if 'a' ≤ c ∧ c ≤ 'f' then some (c.toNat - 87)
  else if 'A' ≤ c ∧ c ≤ 'F' then some (c.toNat - 55)
  else none

end StatusRouter.Text
