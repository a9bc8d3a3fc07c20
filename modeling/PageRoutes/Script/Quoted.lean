/-!
# Quoted texts

A text becomes a literal between single quotes, in which a backslash stands before every backslash
and every single quote.  Reading undoes exactly that: what is read back from a literal is the text
it was made from, and what follows the literal is left over.
-/

namespace PageRoutes.Script

/-- A character as it stands between single quotes. -/
def escape (c : Char) : List Char :=
  if c = '\\' ∨ c = '\'' then ['\\', c] else [c]

/-- The text as a literal between single quotes. -/
def quote (text : String) : String :=
  String.ofList ('\'' :: text.toList.flatMap escape ++ ['\''])

/-- Reads a literal after its opening quote: the text it stands for and what follows it. -/
def unquoteFrom? : List Char → Option (List Char × List Char)
  | [] => none
  | '\'' :: rest => some ([], rest)
  | '\\' :: c :: rest => (unquoteFrom? rest).map fun (text, left) => (c :: text, left)
  | c :: rest => (unquoteFrom? rest).map fun (text, left) => (c :: text, left)

/-- Reads the literal at the beginning of a text. -/
def unquote? : List Char → Option (List Char × List Char)
  | '\'' :: rest => unquoteFrom? rest
  | _ => none

/-- The inside of a literal with its closing quote reads back as the text. -/
theorem unquoteFrom?_escape (text rest : List Char) :
    unquoteFrom? (text.flatMap escape ++ '\'' :: rest) = some (text, rest) := by
  induction text with
  | nil => rfl
  | cons c text ih =>
    rw [List.flatMap_cons, List.append_assoc]
    by_cases special : c = '\\' ∨ c = '\''
    · simp [escape, special, unquoteFrom?, ih]
    · have plain := not_or.1 special
      simp only [escape, special, if_false, List.singleton_append]
      rw [unquoteFrom?]
      · simp [ih]
      · exact plain.2
      · intro d tail h _
        exact plain.1 h

/-- A literal reads back as the text it was made from. -/
theorem unquote?_quote (text : String) (rest : List Char) :
    unquote? ((quote text).toList ++ rest) = some (text.toList, rest) := by
  simp only [quote, String.toList_ofList, List.cons_append, List.append_assoc, unquote?]
  exact unquoteFrom?_escape text.toList rest

end PageRoutes.Script
