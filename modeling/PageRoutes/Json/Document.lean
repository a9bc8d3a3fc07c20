/-!
# Written JSON

A document to be written, and its text with one value on each line and two blanks of indentation
for every level.  Empty lists and records stay on one line.
-/

namespace PageRoutes.Json

mutual

/-- A document to be written. -/
inductive Document where
  | text (value : String)
  | number (value : Nat)
  | list (items : List Document)
  | record (fields : List Field)

/-- A named part of a record. -/
inductive Field where
  | mk (name : String) (value : Document)

end

/-- A hexadecimal digit below sixteen. -/
def hexDigit (n : Nat) : Char :=
  Char.ofNat (if n < 10 then 48 + n else 87 + n)

/-- A character as it stands between quotation marks: quotation marks, backslashes and control
characters are escaped, and nothing else. -/
def escape (c : Char) : List Char :=
  if c = '"' then ['\\', '"']
  else if c = '\\' then ['\\', '\\']
  else if c = '\n' then ['\\', 'n']
  else if c = '\r' then ['\\', 'r']
  else if c = '\t' then ['\\', 't']
  else if c = '\x08' then ['\\', 'b']
  else if c = '\x0c' then ['\\', 'f']
  else if c.toNat < 32 then ['\\', 'u', '0', '0', hexDigit (c.toNat / 16), hexDigit (c.toNat % 16)]
  else [c]

/-- A text between quotation marks. -/
def quote (text : String) : String :=
  String.ofList ('"' :: text.toList.flatMap escape ++ ['"'])

/-- The beginning of a line `level` levels deep. -/
def newLine (level : Nat) : String :=
  "\n" ++ String.ofList (List.replicate (2 * level) ' ')

/-- Writes parts between brackets, each on a line of its own. -/
def enclose (opening closing : String) (level : Nat) (parts : List String) : String :=
  if parts.isEmpty then opening ++ closing
  else
    opening ++ ",".intercalate (parts.map (newLine (level + 1) ++ ·)) ++ newLine level ++ closing

mutual

/-- Writes a document that begins `level` levels deep. -/
def Document.write (level : Nat) : Document → String
  | .text value => quote value
  | .number value => toString value
  | .list items => enclose "[" "]" level (writeItems (level + 1) items)
  | .record fields => enclose "\x7b" "\x7d" level (writeFields (level + 1) fields)

/-- Writes the items of a list. -/
def writeItems (level : Nat) : List Document → List String
  | [] => []
  | item :: rest => item.write level :: writeItems level rest

/-- Writes the fields of a record. -/
def writeFields (level : Nat) : List Field → List String
  | [] => []
  | field :: rest => field.write level :: writeFields level rest

/-- Writes a field with its name. -/
def Field.write (level : Nat) : Field → String
  | .mk name value => quote name ++ ": " ++ value.write level

end

/-- The text of a document. -/
def Document.render (document : Document) : String :=
  document.write 0

end PageRoutes.Json
