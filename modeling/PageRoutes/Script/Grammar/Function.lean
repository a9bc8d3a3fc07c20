import PageRoutes.Script.Grammar.Type

/-!
# Patterns, parameters and functions

The rules for what a declaration binds, for the parameters of functions and constructors, and for
all of a function behind its name.
-/

namespace PageRoutes.Script.Grammar

open Reading

/-! ## Patterns -/

/-- A name or pattern, and a default behind it. -/
def binderWithDefault (grammar : Grammar) : Reading Binder := do
  let binder ← grammar.rule .binder
  if ← eat "=" then
    discard <| admittingIn (grammar.rule .assignment)
    return .withDefault
  else return binder

/-- The elements of an array pattern with the closing bracket. -/
def arrayPattern (grammar : Grammar) : Reading Unit := do
  expect "["
  loop grammar.budget do
    if (← atFinish) || (← atMark "]") then return false
    if ← eat "," then return true
    if ← eat "..." then discard <| grammar.rule .binder
    else discard grammar.binderWithDefault
    unless ← atMark "]" do expect ","
    return true
  expect "]"
  if (← read).ambient then discard <| eat "?"

/-- A member of an object pattern. -/
def memberPattern (grammar : Grammar) : Reading Unit := do
  if ← eat "..." then discard <| grammar.rule .binder
  else
    let key ← grammar.propertyKey
    if ← eat ":" then discard grammar.binderWithDefault
    else
      match key with
      | .name _ => if ← eat "=" then discard <| admittingIn (grammar.rule .assignment)
      | _ => fault

/-- The members of an object pattern with the closing brace. -/
def objectPattern (grammar : Grammar) : Reading Unit := do
  expect "\x7b"
  loop grammar.budget do
    if ← eat "\x7d" then return false
    grammar.memberPattern
    unless ← atMark "\x7d" do expect ","
    return true
  if (← read).ambient then discard <| eat "?"

/-- A name or pattern that is declared. -/
def binder (grammar : Grammar) : Reading Binder := do
  demand
  match ← current with
  | .word _ => return .name (← declaredName)
  | .mark "[" => do grammar.arrayPattern; return .pattern
  | .mark "\x7b" => do freeOfColon grammar.objectPattern; return .pattern
  | _ => fault

/-! ## Parameters -/

/-- A parameter without the three dots of a remainder. -/
def plainParameter (grammar : Grammar) : Reading Binder := do
  eatParameterModifier
  let binder ← grammar.binderWithDefault
  if ← eat "?" then
    if binder == .withDefault && !(← read).ambient then fault
  grammar.optionalTypeMark
  if ← eat "=" then
    discard <| grammar.rule .assignment
    return .withDefault
  else return binder

/-- A parameter for all arguments that remain. -/
def remainderParameter (grammar : Grammar) : Reading Binder := do
  expect "..."
  discard <| grammar.rule .binder
  if ← eat "=" then discard <| grammar.rule .assignment
  grammar.optionalTypeMark
  discard <| eat "?"
  return .remainder

/-- Parameters up to a closing parenthesis. -/
def parametersOf (grammar : Grammar) (parameter : Reading Binder) : Reading (List Binder) :=
  List.reverse <$> iterate grammar.budget (fun binders => do
    if (← atFinish) || (← atMark ")") then return (binders, false)
    (← grammar.rule .decorators).flatten.forM collect
    let binder ← if ← atMark "..." then grammar.remainderParameter else parameter
    unless ← atMark ")" do expect ","
    return (binder :: binders, true)) []

/-- The parameters of a function. -/
def parameters (grammar : Grammar) : Reading (List Binder) :=
  grammar.parametersOf grammar.plainParameter

/-- A parameter of a constructor.  With a modifier it is a property as well, so it needs a name. -/
def constructorParameter (grammar : Grammar) : Reading Binder := do
  let access ← eatModifier ["public", "protected", "private", "in", "out"]
  let overrides ← eatModifier ["override"]
  let isReadonly ← eatModifier ["readonly"]
  let binder ← grammar.plainParameter
  if (access || overrides || isReadonly) && binder == .pattern then fault
  return binder

/-! ## Functions -/

/-- Reads inside a function. -/
def inFunction {α : Type} (isAsync isGenerator : Bool) (reading : Reading α) : Reading α :=
  within (fun mode => { mode with inAsync := isAsync, inGenerator := isGenerator }) reading

/-- The body of a function, and whether there is one.  A declaration may end without a body. -/
def functionBody (grammar : Grammar) : Reading Bool := do
  if (← atMark "\x7b") then
    within (fun mode => { mode with inConditional := false, admitsIn := true })
      (grammar.rule .block)
    return true
  else if ← eatEnd then return false
  else fault

/-- A function from its type parameters on, and whether it has a body. -/
def functionRest (grammar : Grammar) (isAsync isGenerator : Bool) : Reading Bool :=
  inFunction isAsync isGenerator do
    grammar.optionalTypeParameters
    expect "("
    discard <| within (fun mode => { mode with inParameters := true }) (grammar.rule .parameters)
    expect ")"
    if ← atMark ":" then grammar.resultType ":"
    grammar.functionBody

/-- A constructor from its type parameters on. -/
def constructorRest (grammar : Grammar) : Reading Unit := do
  grammar.optionalTypeParameters
  expect "("
  discard <| grammar.parametersOf grammar.constructorParameter
  expect ")"
  grammar.optionalTypeMark
  discard <| inFunction false false grammar.functionBody

/-- The body of an arrow function. -/
def arrowBody (grammar : Grammar) (isAsync : Bool) : Reading Unit :=
  inFunction isAsync false do
    if ← atMark "\x7b" then grammar.rule .block else discard <| grammar.rule .assignment

/-- A function from its keyword on, and whether it has a body. -/
def functionTail (grammar : Grammar) (isAsync nameOptional : Bool) : Reading Bool := do
  expectWord "function"
  let isGenerator ← eat "*"
  if nameOptional then discard optionalName else discard declaredName
  grammar.functionRest isAsync isGenerator

end PageRoutes.Script.Grammar
