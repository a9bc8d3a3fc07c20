import PageRoutes.Text.Blank
import PageRoutes.Text.CaseMap

/-!
# The words of a name

A name such as `userId` or `my-page` consists of words.  Hyphens, underscores, full stops and
blanks separate words, and an upper case letter after a lower case letter or a digit begins a new
one.  The splitting itself needs only two character classes and is stated for any two.
-/

namespace PageRoutes.Text

/-- Whether a character stands between words. -/
def isSeparator (c : Char) : Bool :=
  c == '-' || c == '_' || c == '.' || isBlank c

/-- Whether two neighbouring characters belong to one word. -/
def sameWord (isUpper isLower : Char → Bool) (a b : Char) : Bool :=
  !isSeparator a && !isSeparator b && !(isUpper b && (isLower a || a.isDigit))

/-- The words of a name, for the given classes of upper and lower case letters. -/
def wordsBy (isUpper isLower : Char → Bool) (name : List Char) : List (List Char) :=
  (name.splitBy (sameWord isUpper isLower)).filter fun word => word.all (!isSeparator ·)

/-- The words of a name. -/
def words (name : String) : List (List Char) :=
  wordsBy isUppercase isLowercase name.toList

end PageRoutes.Text
