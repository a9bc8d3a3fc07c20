import PageRoutes.Script.Cursor

/-!
# The phrases of the language

The grammar is a family of mutually recursive rules.  A `Phrase` names a rule that other rules call
through a `Grammar`, and `Phrase.Meaning` is what it yields.  The modules below `Grammar` give the
rules as plain functions of a grammar; `Script.Module` ties the knot.
-/

namespace PageRoutes.Script

/-- What the surroundings have to know of an expression. -/
inductive Form where
  /-- A single name. -/
  | name (word : String)
  /-- An object or array literal, and whether it can be read as a pattern. -/
  | literal (fits : Bool)
  /-- An arrow function. -/
  | arrow
  /-- An operation that nothing can be assigned to. -/
  | operation
  /-- An operator with its operand behind it. -/
  | prefixed
  /-- An operand of `await`. -/
  | awaited
  /-- An assignment. -/
  | assignment
  /-- A construction without arguments. -/
  | bareNew
  /-- A link of a chain that stops at a missing value. -/
  | optionalLink
  /-- A member of such a link. -/
  | afterOptionalLink
  | other
deriving Repr, DecidableEq

namespace Form

/-- Whether the expression can be read as a pattern. -/
def fits : Form → Bool
  | literal fits => fits
  | _ => true

/-- Whether a type may follow the expression when it is read as a pattern. -/
def takesType : Form → Bool
  | name _ | literal _ | assignment => true
  | _ => false

/-- Whether an operator that assigns may follow the expression. -/
def takesAssignment : Form → Bool
  | arrow | operation | prefixed => false
  | _ => true

/-- The form of a member of the expression. -/
def member : Form → Form
  | optionalLink => afterOptionalLink
  | _ => other

end Form

/-- What the surroundings have to know of something that is declared. -/
inductive Binder where
  | name (word : String)
  /-- An object or array pattern. -/
  | pattern
  /-- A name or pattern with a value for the case that none is given. -/
  | withDefault
  /-- All that remains. -/
  | remainder
deriving Repr, DecidableEq

/-- What the expressions of decorators hold, decorator by decorator. -/
abbrev Decorators := List (List Outline)

/-- A rule of the grammar that other rules call. -/
inductive Phrase where
  | type
  /-- A type that is not conditional. -/
  | plainType
  /-- A type with operators in front. -/
  | prefixedType
  /-- A name or pattern that is declared. -/
  | binder
  /-- The parameters of a function. -/
  | parameters
  | assignment
  /-- An operand with the operators in front of and behind it. -/
  | unary
  /-- What follows an operand: operators that bind more tightly than `level`. -/
  | operation (left : Form) (level : Nat)
  /-- An expression with members and constructions; `bare` ones have no arguments. -/
  | memberExpression (bare : Bool)
  /-- Decorators, of which there may be none. -/
  | decorators
  /-- A class, and whether its name may be missing, from the word `class` on. -/
  | classBody (nameOptional : Bool) (decorators : Decorators)
  /-- A statement, and whether it may declare something. -/
  | statement (declares : Bool)
  /-- Statements in braces. -/
  | block
  /-- The body of a namespace. -/
  | namespaceBody

/-- What a phrase yields. -/
abbrev Phrase.Meaning : Phrase → Type
  | binder => Binder
  | parameters => List Binder
  | assignment | unary | operation _ _ | memberExpression _ => Form
  | decorators => Decorators
  | classBody _ _ => Outline
  | type | plainType | prefixedType | statement _ | block | namespaceBody => Unit

/-- The rules as other rules see them. -/
structure Grammar where
  /-- How often a rule may repeat a step. -/
  budget : Nat
  rule : (phrase : Phrase) → Reading phrase.Meaning

namespace Grammar

open Reading

/-- Elements between commas up to an end; a comma may stand in front of the end. -/
def commaList (grammar : Grammar) (atClose : Reading Bool) (element : Reading Unit) :
    Reading Unit :=
  loop grammar.budget do
    if ← atClose then return false
    element
    if ← eat "," then return true
    if ← atClose then return false
    fault

end Grammar

end PageRoutes.Script
