import PageRoutes.Text.Digit

/-!
# Read JSON

A JSON text is read into a value.  Numbers are only checked for their form.  A string may spell half
of a surrogate pair; such a string stands for no text, and whether that matters depends on where
the string stands, so it is read all the same.
-/

namespace PageRoutes.Json

open PageRoutes.Text (hexValue?)

/-- A value that was read. -/
inductive Value where
  | null
  | bool (value : Bool)
  | number
  /-- A string, with the text it stands for if there is one. -/
  | string (text : Option String)
  | array (items : List Value)
  | object (members : List (Option String × Value))

/-! ## Strings -/

/-- What a string consists of: characters, and numbers given in hexadecimal digits. -/
inductive Unit16 where
  | char (c : Char)
  | code (n : Nat)

/-- The number that four hexadecimal digits spell. -/
def hexCode? (a b c d : Char) : Option Nat := do
  return (((← hexValue? a) * 16 + (← hexValue? b)) * 16 + (← hexValue? c)) * 16 + (← hexValue? d)

/-- The character that a single letter stands for behind a backslash. -/
def escaped? : Char → Option Char
  | '"' => some '"'
  | '\\' => some '\\'
  | '/' => some '/'
  | 'b' => some '\x08'
  | 'f' => some '\x0c'
  | 'n' => some '\n'
  | 'r' => some '\r'
  | 't' => some '\t'
  | _ => none

/-- Reads a string after its opening quotation mark, up to and including the closing one. -/
def readUnits? : List Char → Option (List Unit16 × List Char)
  | [] => none
  | '"' :: rest => some ([], rest)
  | '\\' :: 'u' :: a :: b :: c :: d :: rest => do
    let code ← hexCode? a b c d
    let (units, left) ← readUnits? rest
    return (.code code :: units, left)
  | '\\' :: e :: rest => do
    let c ← escaped? e
    let (units, left) ← readUnits? rest
    return (.char c :: units, left)
  | c :: rest =>
    if c.toNat < 32 ∨ c = '\\' then none
    else do
      let (units, left) ← readUnits? rest
      return (.char c :: units, left)

/-- The characters that a string stands for; a high surrogate must stand before a low one. -/
def decodeUnits? : List Unit16 → Option (List Char)
  | [] => some []
  | .char c :: rest => (decodeUnits? rest).map (c :: ·)
  | .code high :: .code low :: rest =>
    if 0xd800 ≤ high ∧ high < 0xdc00 ∧ 0xdc00 ≤ low ∧ low < 0xe000 then
      (decodeUnits? rest).map (Char.ofNat ((high - 0xd800) * 0x400 + (low - 0xdc00) + 0x10000) :: ·)
    else if 0xd800 ≤ high ∧ high < 0xe000 then none
    else (decodeUnits? (.code low :: rest)).map (Char.ofNat high :: ·)
  | .code n :: rest =>
    if 0xd800 ≤ n ∧ n < 0xe000 then none
    else (decodeUnits? rest).map (Char.ofNat n :: ·)

/-- Reads a string after its opening quotation mark into the text it stands for. -/
def readString? (input : List Char) : Option (Option String × List Char) := do
  let (units, rest) ← readUnits? input
  return ((decodeUnits? units).map String.ofList, rest)

/-! ## Numbers -/

/-- Leaves out one or more digits. -/
def skipDigits? (input : List Char) : Option (List Char) :=
  if input.head?.any Char.isDigit then some (input.dropWhile Char.isDigit) else none

/-- Leaves out the part of a number behind its decimal point, if there is one. -/
def skipFraction? : List Char → Option (List Char)
  | '.' :: rest => skipDigits? rest
  | rest => some rest

/-- Leaves out the exponent of a number, if there is one. -/
def skipExponent? : List Char → Option (List Char)
  | 'e' :: rest | 'E' :: rest =>
    match rest with
    | '+' :: digits | '-' :: digits => skipDigits? digits
    | digits => skipDigits? digits
  | rest => some rest

/-- Leaves out the whole part of a number, which begins with zero only if it is zero. -/
def skipWhole? : List Char → Option (List Char)
  | '0' :: rest => if rest.head?.any Char.isDigit then none else some rest
  | rest => skipDigits? rest

/-- Leaves out a number. -/
def skipNumber? (input : List Char) : Option (List Char) :=
  let unsigned := if input.head? == some '-' then input.tail else input
  skipWhole? unsigned >>= skipFraction? >>= skipExponent?

/-! ## Values -/

/-- Leaves out blanks between tokens. -/
def skipBlanks (input : List Char) : List Char :=
  input.dropWhile fun c => c == ' ' || c == '\n' || c == '\t' || c == '\r'

mutual

/-- Reads a value at most `fuel` steps deep and long. -/
def readValue? (fuel : Nat) (input : List Char) : Option (Value × List Char) :=
  match fuel with
  | 0 => none
  | fuel + 1 =>
    match skipBlanks input with
    | 'n' :: 'u' :: 'l' :: 'l' :: rest => some (.null, rest)
    | 't' :: 'r' :: 'u' :: 'e' :: rest => some (.bool true, rest)
    | 'f' :: 'a' :: 'l' :: 's' :: 'e' :: rest => some (.bool false, rest)
    | '"' :: rest => do
      let (text, left) ← readString? rest
      return (.string text, left)
    | '[' :: rest =>
      match skipBlanks rest with
      | ']' :: left => some (.array [], left)
      | _ => do
        let (items, left) ← readItems? fuel rest
        return (.array items, left)
    | '\x7b' :: rest =>
      match skipBlanks rest with
      | '\x7d' :: left => some (.object [], left)
      | _ => do
        let (members, left) ← readMembers? fuel rest
        return (.object members, left)
    | other => do
      let left ← skipNumber? other
      return (.number, left)

/-- Reads one or more items of an array and its closing bracket. -/
def readItems? (fuel : Nat) (input : List Char) : Option (List Value × List Char) :=
  match fuel with
  | 0 => none
  | fuel + 1 => do
    let (item, rest) ← readValue? fuel input
    match skipBlanks rest with
    | ']' :: left => return ([item], left)
    | ',' :: more =>
      let (items, left) ← readItems? fuel more
      return (item :: items, left)
    | _ => none

/-- Reads one or more members of an object and its closing brace. -/
def readMembers? (fuel : Nat) (input : List Char) :
    Option (List (Option String × Value) × List Char) :=
  match fuel with
  | 0 => none
  | fuel + 1 =>
    match skipBlanks input with
    | '"' :: rest => do
      let (name, afterName) ← readString? rest
      match skipBlanks afterName with
      | ':' :: afterColon =>
        let (value, afterValue) ← readValue? fuel afterColon
        match skipBlanks afterValue with
        | '\x7d' :: left => return ([(name, value)], left)
        | ',' :: more =>
          let (members, left) ← readMembers? fuel more
          return ((name, value) :: members, left)
        | _ => none
      | _ => none
    | _ => none

end

/-- Reads a whole text as one value. -/
def read? (text : String) : Option Value := do
  let input := text.toList
  let (value, rest) ← readValue? (input.length + 1) input
  if (skipBlanks rest).isEmpty then return value else none

/-! ## Looking into values -/

/-- The parts of a record with the given field names, in their order.  A record is an object, in
which no field may stand twice and other names are passed over, or an array that gives the first
fields in their order. -/
def Value.fields? (names : List String) : Value → Option (List (Option Value))
  | .array items =>
    if items.length ≤ names.length then
      some (items.map some ++ List.replicate (names.length - items.length) none)
    else none
  | .object members =>
    if members.all (·.1.isSome)
        ∧ names.all (fun name => members.countP (·.1 == some name) ≤ 1) then
      some (names.map fun name => (members.find? (·.1 == some name)).map (·.2))
    else none
  | _ => none

/-- The text of a field that may be absent or null. -/
def optionalText? : Option Value → Option (Option String)
  | none | some .null => some none
  | some (.string (some text)) => some (some text)
  | _ => none

end PageRoutes.Json
