import PageRoutes.Script.Escape
import PageRoutes.Script.Letter
import PageRoutes.Script.Word

/-!
# Tokens

A script is read token by token.  Between two tokens there may be blanks and comments, and whether
a line ends there matters.  Two kinds of tokens depend on what surrounds them and are not read
here but by `afterPattern?` and `afterChunk?`: a slash may begin a regular expression, and the text
of a template goes on behind each expression in it.
-/

namespace PageRoutes.Script

open PageRoutes.Text (isDigitOf)

/-- A token. -/
inductive Token where
  | word (text : String)
  /-- A text in quotation marks. -/
  | quoted (value : String)
  | number
  | bigInteger
  /-- An operator or a punctuation mark. -/
  | mark (symbol : String)
  /-- Something that is no token. -/
  | invalid
  /-- The end of the script. -/
  | finish
deriving Repr, DecidableEq

namespace Token

/-- The operators that stand between two operands, with how tightly they bind. -/
def operators : List (String × Nat) := [
  ("||", 1), ("??", 1), ("&&", 2), ("|", 3), ("^", 4), ("&", 5),
  ("==", 6), ("!=", 6), ("===", 6), ("!==", 6), ("<", 7), (">", 7), ("<=", 7), (">=", 7),
  ("<<", 8), (">>", 8), (">>>", 8), ("+", 9), ("-", 9), ("*", 10), ("/", 10), ("%", 10),
  ("**", 11)]

/-- The operators that assign. -/
def assignments : List String := [
  "=", "+=", "-=", "*=", "/=", "%=", "**=", "<<=", ">>=", ">>>=", "&=", "|=", "^=", "&&=", "||=",
  "??="]

/-- How tightly `in` and `instanceof` bind. -/
def relationLevel : Nat := 7

/-- How tightly the power operator binds. -/
def powerLevel : Nat := 11

/-- How tightly an operator binds, if the token is one. -/
def level? : Token → Option Nat
  | mark symbol => operators.lookup symbol
  | _ => none

/-- Whether the token is an operator between two operands. -/
def isOperator (token : Token) : Bool :=
  token.level?.isSome

/-- Whether the token is an operator that assigns. -/
def isAssignment : Token → Bool
  | mark symbol => assignments.contains symbol
  | _ => false

/-- Whether the token is one of the given marks. -/
def isOneOf (symbols : List String) : Token → Bool
  | mark symbol => symbols.contains symbol
  | _ => false

/-- The text of a word. -/
def word? : Token → Option String
  | word text => some text
  | _ => none

/-- Whether the token is a word. -/
def isWord (token : Token) : Bool :=
  token.word?.isSome

/-- Whether the token is a word that strict code may use as a name. -/
def isName (token : Token) : Bool :=
  token.word?.any (!Word.isReserved ·)

/-- Whether the token is a text. -/
def isText : Token → Bool
  | quoted _ => true
  | _ => false

/-- Whether the token is a text or a number. -/
def isLiteral : Token → Bool
  | quoted _ | number | bigInteger => true
  | _ => false

/-- Whether an operand of `yield` can begin with the token. -/
def beginsExpression : Token → Bool
  | word text => Word.beginsExpression text
  | quoted _ | number | bigInteger => true
  | mark symbol =>
    ["!", "(", "[", "\x7b", "`", "++", "--", "~", "+", "-", "<", "/", "/=", "#", "@"].contains
      symbol
  | invalid | finish => false

/-- Whether the token can begin what type arguments are taken away from: `a < b > (c)` stays a
comparison, `a<b>;` does not. -/
def beginsOperand : Token → Bool
  | word text =>
    ["this", "super", "null", "true", "false", "function", "class", "new"].contains text
      || !Word.isReserved text
  | quoted _ | number | bigInteger => true
  | mark symbol => ["`", "(", "[", "\x7b", "/", "/="].contains symbol
  | invalid | finish => false

end Token

/-! ## Between tokens -/

/-- What follows a gap between tokens. -/
structure Gap where
  /-- Whether a line ends in the gap. -/
  endsLine : Bool
  /-- The text behind the gap; `none` if a comment in it is not closed. -/
  rest : Option (List Char)

mutual

/-- Leaves out blanks and comments. -/
def skipGap (endsLine : Bool) : List Char → Gap
  | [] => ⟨endsLine, some []⟩
  | '/' :: '/' :: rest => skipLine endsLine rest
  | '<' :: '!' :: '-' :: '-' :: rest => skipLine endsLine rest
  | '/' :: '*' :: rest => skipComment endsLine endsLine rest
  | '-' :: '-' :: '>' :: rest =>
    if endsLine then skipLine endsLine rest else ⟨endsLine, some ('-' :: '-' :: '>' :: rest)⟩
  | c :: rest =>
    if isLineEnd c then skipGap true rest
    else if isSpace c then skipGap endsLine rest
    else ⟨endsLine, some (c :: rest)⟩

/-- Leaves out the rest of a line and the gap that goes on behind it. -/
def skipLine (endsLine : Bool) : List Char → Gap
  | [] => ⟨endsLine, some []⟩
  | c :: rest => if isLineEnd c then skipGap true rest else skipLine endsLine rest

/-- Leaves out the rest of a comment and the gap that goes on behind it.  A line that ends in the
comment counts once the comment is closed. -/
def skipComment (before within : Bool) : List Char → Gap
  | [] => ⟨before, none⟩
  | '*' :: '/' :: rest => skipGap within rest
  | c :: rest => skipComment before (within || isLineEnd c) rest

end

/-! ## Words, texts and numbers -/

/-- Reads the characters of a word, and whether some of them are escaped. -/
def readWord (text : List Char) : Option (List Char × Bool × List Char) :=
  match text with
  | [] => some ([], false, [])
  | '\\' :: 'u' :: rest => do
    let escape ← Escape.unicode? rest
    let (tail, _, left) ← readWord (rest.drop (escape.width - 1))
    return (escape.value ++ tail, true, left)
  | '\\' :: _ => none
  | c :: rest =>
    if isIdentifierPart c then do
      let (tail, escaped, left) ← readWord rest
      return (c :: tail, escaped, left)
    else some ([], false, c :: rest)
termination_by text.length

/-- Reads a text up to its closing quotation mark or to the end of its line. -/
def readText (quotation : Char) (text : List Char) : Option (List Char × List Char) :=
  match text with
  | [] => some ([], [])
  | c :: rest =>
    if c == quotation then some ([], rest)
    else if c == '\n' || c == '\r' then some ([], c :: rest)
    else if c == '\\' then do
      let escape ← Escape.read? false rest
      let (tail, left) ← readText quotation (rest.drop escape.width)
      return (escape.value ++ tail, left)
    else do
      let (tail, left) ← readText quotation rest
      return (c :: tail, left)
termination_by text.length

/-- Leaves out digits and the lines under the digits that group them. -/
def skipDigits (base : Nat) (text : List Char) : List Char :=
  text.dropWhile fun c => c == '_' || isDigitOf base c

/-- A number may not go on as a word. -/
def endNumber (token : Token) (rest : List Char) : Option (Token × List Char) :=
  if rest.head?.any isIdentifierStart then none else some (token, rest)

/-- Reads a whole number of a base that is written in front of it. -/
def readBased (base : Nat) (text : List Char) : Option (Token × List Char) :=
  if !text.head?.any (isDigitOf base) then none
  else match skipDigits base text with
    | 'n' :: rest => endNumber .bigInteger rest
    | rest => endNumber .number rest

/-- Reads the exponent of a number, if there is one. -/
def readExponent (text : List Char) : Option (Token × List Char) :=
  match text with
  | 'e' :: rest | 'E' :: rest =>
    let digits := match rest with
      | '+' :: more | '-' :: more => more
      | _ => rest
    if digits.head?.any Char.isDigit then endNumber .number (skipDigits 10 digits) else none
  | _ => endNumber .number text

/-- Reads a number in decimal or old octal notation. -/
def readDecimal (text : List Char) : Option (Token × List Char) :=
  let whole := text.takeWhile fun c => c == '_' || c.isDigit
  match text.drop whole.length with
  | 'n' :: rest => some (.bigInteger, rest)
  | rest =>
    if whole.head? == some '0' && whole.length > 1 && whole.all (isDigitOf 8 · ) then
      endNumber .number rest
    else match rest with
      | '.' :: fraction => readExponent (skipDigits 10 fraction)
      | _ => readExponent rest

/-- Reads a number. -/
def readNumber (text : List Char) : Option (Token × List Char) :=
  match text with
  | '0' :: 'x' :: rest | '0' :: 'X' :: rest => readBased 16 rest
  | '0' :: 'o' :: rest | '0' :: 'O' :: rest => readBased 8 rest
  | '0' :: 'b' :: rest | '0' :: 'B' :: rest => readBased 2 rest
  | _ => readDecimal text

/-! ## Any token -/

/-- The marks, longer ones in front of their beginnings. -/
def marks : List (List Char) := [
  ">>>=", "...", "===", "!==", ">>>", "<<=", ">>=", "**=", "&&=", "||=", "??=",
  "=>", "==", "!=", "<=", ">=", "<<", ">>", "&&", "||", "??", "++", "--", "+=", "-=", "*=", "/=",
  "%=", "&=", "|=", "^=", "**",
  "\x7b", "\x7d", "(", ")", "[", "]", ";", ",", "<", ">", "+", "-", "*", "/", "%", "&", "|", "^",
  "!", "~", "?", ":", "=", ".", "@", "#", "`"].map String.toList

/-- Reads a mark. -/
def readMark? (text : List Char) : Option (Token × List Char) :=
  (marks.find? (·.isPrefixOf text)).map fun symbol =>
    (.mark (String.ofList symbol), text.drop symbol.length)

/-- Reads a word.  A reserved word may not be spelled with escapes. -/
def readWordToken? (text : List Char) : Option (Token × List Char) := do
  let (letters, escaped, rest) ← readWord text
  let word := String.ofList letters
  if escaped && Word.isReserved word then none else return (.word word, rest)

/-- Reads the token at the beginning of a text without a gap in front; `none` if there is none. -/
def readToken? (text : List Char) : Option (Token × List Char) :=
  match text with
  | [] => some (.finish, [])
  | c :: rest =>
    if isIdentifierStart c || c == '\\' then readWordToken? text
    else if c.isDigit || (c == '.' && rest.head?.any Char.isDigit) then readNumber text
    else if c == '"' || c == '\'' then
      (readText c rest).map fun (value, left) => (.quoted (String.ofList value), left)
    else readMark? text

/-! ## Regular expressions and templates -/

/-- What follows the body of a regular expression.  A slash in a class or behind a backslash does
not end it; the end of the line does, but not properly. -/
def afterBody? (inClass escaped : Bool) : List Char → Option (List Char)
  | [] => none
  | c :: rest =>
    if isLineEnd c then none
    else if escaped then afterBody? inClass false rest
    else if c == '/' && !inClass then some rest
    else if c == '[' then afterBody? true false rest
    else if c == ']' then afterBody? false false rest
    else afterBody? inClass (c == '\\') rest

/-- What follows a regular expression, given what follows its opening slash. -/
def afterPattern? (text : List Char) : Option (List Char) := do
  let flags ← afterBody? false false text
  let (_, _, rest) ← readWord flags
  return rest

/-- What follows the text of a template, and whether the template ends there; otherwise an
expression follows.  A template without a tag may not hold malformed escapes. -/
def afterChunk? (tagged : Bool) (text : List Char) : Option (Bool × List Char) :=
  match text with
  | [] => none
  | '`' :: rest => some (true, rest)
  | '$' :: '\x7b' :: rest => some (false, rest)
  | '\\' :: rest =>
    match Escape.read? true rest with
    | some escape => afterChunk? tagged (rest.drop escape.width)
    | none => if tagged then afterChunk? tagged (rest.drop 1) else none
  | _ :: rest => afterChunk? tagged rest
termination_by text.length

end PageRoutes.Script
