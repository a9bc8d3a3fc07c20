import PageRoutes.Script.Grammar.Function

/-!
# Operations

The rules for operators between operands, for conditional expressions and assignments behind an
operand, and for expressions between commas.
-/

namespace PageRoutes.Script.Grammar

open Reading

/-- How tightly the operator at the cursor binds, if there is one. -/
def operatorLevel? : Reading (Option Nat) := do
  match ← current with
  | .word "instanceof" => return some Token.relationLevel
  | .word "in" => return if (← read).admitsIn then some Token.relationLevel else none
  | token => return token.level?

/-- A type that an operand is taken to have, behind `as` or `satisfies`. -/
def ascription (grammar : Grammar) : Reading Unit := do
  if ← eatWord "as" then
    unless ← eatWord "const" do grammar.rule .type
  else
    advance
    grammar.rule .type

/-- What follows an operand: operators that bind more tightly than `level`, with their operands.
A power of an operand with a sign is refused. -/
def operation (grammar : Grammar) (left : Form) (level : Nat) : Reading Form :=
  iterate grammar.budget (fun left => do
    let ascribes ← sameLine ((atWord "as") <||> (atWord "satisfies"))
    if ascribes && level < Token.relationLevel then
      grammar.ascription
      return (.other, true)
    match ← operatorLevel? with
    | none => return (left, false)
    | some strength =>
      if strength ≤ level then return (left, false)
      advance
      let isPower := strength == Token.powerLevel
      if isPower && (left == .prefixed || left == .awaited) then fault
      let right ← grammar.rule .unary
      discard <| grammar.rule (.operation right (if isPower then strength - 1 else strength))
      return (.operation, true)) left

/-- Operands between operators.  An operand may be missing in front of an operator. -/
def operands (grammar : Grammar) : Reading Form := do
  let first ← match ← recover (grammar.rule .unary) with
    | some form => pure form
    | none => do
      demand
      if (← operatorLevel?).isSome then pure .other else fault
  if first == .arrow then return first else grammar.rule (.operation first 0)

/-- The two branches of a conditional expression, behind the question mark. -/
def branches (grammar : Grammar) : Reading Form := do
  discard <| within (fun mode =>
    { mode with inConditional := true, admitsIn := true, colonFollows := true })
    (grammar.rule .assignment)
  expect ":"
  discard <| within (fun mode => { mode with inConditional := true, colonFollows := false })
    (grammar.rule .assignment)
  return .operation

/-- An assignment to what stands in front of the cursor, if an operator for that follows.  Members
of an object literal that are functions cannot be assigned to. -/
def assignmentTo (grammar : Grammar) (target : Form) : Reading Form := do
  let token ← current
  if token.isAssignment then
    if token == .mark "=" && !target.fits then fault
    advance
    discard <| grammar.rule .assignment
    return .assignment
  else return target

/-- Expressions between commas. -/
def expression (grammar : Grammar) : Reading Form := do
  let first ← grammar.rule .assignment
  iterate grammar.budget (fun form => do
    if ← eat "," then
      discard <| grammar.rule .assignment
      return (.other, true)
    else return (form, false)) first

end PageRoutes.Script.Grammar
