/-!
# Digits

The value of a digit in a number system with at most sixteen digits, and the numbers that digits
spell.
-/

namespace PageRoutes.Text

/-- The value of a hexadecimal digit. -/
def hexValue? (c : Char) : Option Nat :=
  if c.isDigit then some (c.toNat - 48)
  else if 'a' ≤ c ∧ c ≤ 'f' then some (c.toNat - 87)
  else if 'A' ≤ c ∧ c ≤ 'F' then some (c.toNat - 55)
  else none

/-- The value of a digit of a number system with the given base. -/
def digitValue? (base : Nat) (c : Char) : Option Nat :=
  (hexValue? c).filter (· < base)

/-- Whether a character is a digit of a number system. -/
def isDigitOf (base : Nat) (c : Char) : Bool :=
  (digitValue? base c).isSome

/-- The number that digits spell; characters that are no digits count for nothing. -/
def valueOf (base : Nat) (digits : List Char) : Nat :=
  (digits.filterMap (digitValue? base)).foldl (· * base + ·) 0

end PageRoutes.Text
