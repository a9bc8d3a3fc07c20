/-!
# Words

Some words of the language are its keywords, some are kept for later, and all others are names.
Modules are always strict, so the words that only strict code reserves are reserved here.
-/

namespace PageRoutes.Script

namespace Word

/-- The words that can never be names. -/
def keywords : List String := [
  "break", "case", "catch", "class", "const", "continue", "debugger", "default", "delete", "do",
  "else", "export", "extends", "finally", "for", "function", "if", "import", "in", "instanceof",
  "new", "return", "super", "switch", "this", "throw", "try", "typeof", "var", "void", "while",
  "with"]

/-- The words that stand for values. -/
def constants : List String := ["null", "true", "false"]

/-- The words that are keywords in some places and names in others. -/
def halfKeywords : List String := ["let", "yield", "await"]

/-- The words that the language keeps for later. -/
def futureKeywords : List String := [
  "enum", "implements", "package", "protected", "interface", "private", "public"]

/-- Whether a word can never be a name. -/
def isKeyword (word : String) : Bool :=
  keywords.contains word || constants.contains word

/-- Whether strict code may not use a word as a name. -/
def isReserved (word : String) : Bool :=
  isKeyword word || halfKeywords.contains word || futureKeywords.contains word

/-- Whether a word is a name wherever a name may stand. -/
def isPlain (word : String) : Bool :=
  !isKeyword word && !halfKeywords.contains word

/-- Whether the keyword can begin an expression. -/
def beginsExpression (word : String) : Bool :=
  !keywords.contains word
    || ["class", "delete", "function", "import", "new", "super", "this", "typeof", "void"].contains
      word

/-- Whether a word may stand where a name is read.  A generator keeps `yield` for itself, and a
module keeps `await`, except in a description of code that stands elsewhere. -/
def mayName (yieldFree ambient : Bool) (word : String) : Bool :=
  if word == "this" then true
  else if word == "await" then ambient
  else if word == "yield" then yieldFree
  else !isKeyword word

end Word

end PageRoutes.Script
