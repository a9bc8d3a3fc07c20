/-!
# Replacing parts of a text

Texts are lists of characters here, so that each function is one recursion over its argument.
-/

namespace PageRoutes.Text

/-- Leaves out `skip` characters of a text and then writes `new` for every occurrence of `old`,
from left to right and without overlaps. -/
def replaceFrom (old new : List Char) (skip : Nat) : List Char → List Char
  | [] => []
  | c :: rest =>
    match skip with
    | skip + 1 => replaceFrom old new skip rest
    | 0 =>
      if old.isPrefixOf (c :: rest) then new ++ replaceFrom old new (old.length - 1) rest
      else c :: replaceFrom old new 0 rest

/-- Writes `new` for every occurrence of the non-empty text `old`. -/
def replaceAll (old new text : String) : String :=
  String.ofList (replaceFrom old.toList new.toList 0 text.toList)

/-- The text without the given ending, if it has that ending. -/
def dropEnding (ending text : String) : String :=
  if ending.toList.isSuffixOf text.toList then
    String.ofList (text.toList.take (text.toList.length - ending.toList.length))
  else text

end PageRoutes.Text
