import PageRoutes.Text.CodeRange

/-!
# Blank characters

A character is blank when it has the `White_Space` property of the Unicode standard.
-/

namespace PageRoutes.Text

/-- The code points with the property `White_Space`. -/
def blankRanges : List CodeRange := [
  ⟨0x9, 0xd, 1⟩, ⟨0x20, 0x20, 1⟩, ⟨0x85, 0x85, 1⟩, ⟨0xa0, 0xa0, 1⟩, ⟨0x1680, 0x1680, 1⟩,
  ⟨0x2000, 0x200a, 1⟩, ⟨0x2028, 0x2029, 1⟩, ⟨0x202f, 0x202f, 1⟩, ⟨0x205f, 0x205f, 1⟩,
  ⟨0x3000, 0x3000, 1⟩]

/-- Whether a character is white space. -/
def isBlank (c : Char) : Bool :=
  inRanges blankRanges c

end PageRoutes.Text
