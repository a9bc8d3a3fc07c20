/-!
# Code ranges

The character classes and case mappings of the Unicode standard, as this library uses them, are
lists of arithmetic progressions of code points.  Alphabets whose upper and lower case letters
alternate make progressions of step two; all others have step one.
-/

namespace PageRoutes.Text

/-- The code points `first`, `first + step`, … that do not pass `last`. -/
structure CodeRange where
  first : Nat
  last : Nat
  step : Nat
deriving Repr, DecidableEq

/-- Whether the range holds the code point `n`. -/
def CodeRange.contains (r : CodeRange) (n : Nat) : Bool :=
  decide (r.first ≤ n) && decide (n ≤ r.last) && (n - r.first) % r.step == 0

/-- Whether one of the ranges holds the character. -/
def inRanges (table : List CodeRange) (c : Char) : Bool :=
  table.any (·.contains c.toNat)

/-- A range whose code points all move by the same distance. -/
structure CodeShift extends CodeRange where
  distance : Int
deriving Repr, DecidableEq

/-- The character that the first shift holding `c` moves it to; `c` itself when there is none. -/
def shifted (table : List CodeShift) (c : Char) : Char :=
  match table.find? (·.contains c.toNat) with
  | some s => Char.ofNat (c.toNat + s.distance).toNat
  | none => c

end PageRoutes.Text
