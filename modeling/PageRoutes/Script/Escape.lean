import PageRoutes.Text.Digit

/-!
# Escape sequences

A backslash gives what follows it a meaning of its own: a character by its code, a control
character by a letter, or a line end that does not count.  A reader gets the characters that a
sequence stands for and the number of characters behind the backslash that belong to it.
-/

namespace PageRoutes.Script

open PageRoutes.Text (isDigitOf valueOf)

/-- What an escape sequence stands for. -/
structure Escape where
  value : List Char
  /-- How many characters behind the backslash belong to the sequence. -/
  width : Nat
deriving Repr, DecidableEq

namespace Escape

/-- The character with the given code, if there is one. -/
def scalar? (code : Nat) : Option Char :=
  if code.isValidChar then some (Char.ofNat code) else none

/-- The code point between braces behind `\u`, given what follows the opening brace.  A code that no
character has stands for its own spelling. -/
def bracedCode? (text : List Char) : Option Escape :=
  let digits := text.takeWhile (isDigitOf 16)
  match if digits.isEmpty then none else scalar? (valueOf 16 digits) with
  | some c =>
    if (text.drop digits.length).head? == some '\x7d' then some ⟨[c], digits.length + 3⟩ else none
  | none =>
    let kept := (text.take 4).takeWhile (· != '\x7d')
    if (text.drop kept.length).head? == some '\x7d' then
      some ⟨'\\' :: 'u' :: '\x7b' :: kept ++ ['\x7d'], kept.length + 3⟩
    else none

/-- The code point of four digits behind `\u`.  What is no such code stands for its own spelling. -/
def plainCode (text : List Char) : Escape :=
  let digits := text.take 4
  match if digits.length = 4 ∧ digits.all (isDigitOf 16) then scalar? (valueOf 16 digits)
    else none with
  | some c => ⟨[c], 5⟩
  | none => ⟨'\\' :: 'u' :: digits, digits.length + 1⟩

/-- A code point, given what follows `\u`. -/
def unicode? : List Char → Option Escape
  | '\x7b' :: rest => bracedCode? rest
  | text => some (plainCode text)

/-- A code of two digits, given what follows `\x`. -/
def twoDigits? : List Char → Option Escape
  | a :: b :: _ =>
    if isDigitOf 16 a && isDigitOf 16 b then some ⟨[Char.ofNat (valueOf 16 [a, b])], 3⟩ else none
  | _ => none

/-- A code of up to three octal digits that does not pass 255. -/
def octal (text : List Char) : Escape :=
  let digits := (text.take 3).takeWhile (isDigitOf 8)
  let kept := if valueOf 8 digits < 256 then digits else digits.take 2
  ⟨[Char.ofNat (valueOf 8 kept)], kept.length⟩

/-- The sequence behind a backslash; `none` if it is malformed.  A template does not admit octal
codes. -/
def read? (template : Bool) : List Char → Option Escape
  | [] => none
  | 'n' :: _ => some ⟨['\n'], 1⟩
  | 'r' :: _ => some ⟨['\r'], 1⟩
  | 't' :: _ => some ⟨['\t'], 1⟩
  | 'b' :: _ => some ⟨['\x08'], 1⟩
  | 'v' :: _ => some ⟨['\x0b'], 1⟩
  | 'f' :: _ => some ⟨['\x0c'], 1⟩
  | '\r' :: '\n' :: _ => some ⟨[], 2⟩
  | '\r' :: _ | '\n' :: _ | '\u2028' :: _ | '\u2029' :: _ => some ⟨[], 1⟩
  | 'x' :: rest => twoDigits? rest
  | 'u' :: rest => unicode? rest
  | c :: rest =>
    if !isDigitOf 8 c then some ⟨[c], 1⟩
    else if c == '0' && !rest.head?.any (isDigitOf 8) then some ⟨['\x00'], 1⟩
    else if template then none
    else some (octal (c :: rest))

end Escape

end PageRoutes.Script
