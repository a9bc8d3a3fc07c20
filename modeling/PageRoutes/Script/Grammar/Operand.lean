import PageRoutes.Script.Grammar.Operation

/-!
# Operands

The rules for the smallest expressions: literals, templates, names, functions, and what stands in
brackets.  Parentheses are read before it is known whether they hold an expression or the parameters
of an arrow function, so their items are kept until that shows.
-/

namespace PageRoutes.Script.Grammar

open Reading

/-! ## Literals -/

/-- An expression, or the items of one behind three dots. -/
def spreadable (grammar : Grammar) : Reading (Bool × Form) := do
  let spread ← eat "..."
  return (spread, ← admittingIn (grammar.rule .assignment))

/-- Arguments in parentheses. -/
def arguments (grammar : Grammar) : Reading Unit :=
  freeOfColon do
    expect "("
    loop grammar.budget do
      if (← atFinish) || (← atMark ")") then return false
      discard grammar.spreadable
      unless ← atMark ")" do expect ","
      return true
    expect ")"

/-- A regular expression.  One that is not closed is no token up to the end of its line. -/
def regularExpression : Reading Unit := do
  match afterPattern? (← get).source.tail with
  | some rest => modify (·.moveTo rest)
  | none =>
    modify fun cursor =>
      { cursor with token := .invalid, rest := cursor.source.dropWhile (!isLineEnd ·) }
    fault

/-- A template; one behind a tag may hold malformed escapes. -/
def template (grammar : Grammar) (tagged : Bool) : Reading Unit :=
  loop grammar.budget do
    match afterChunk? tagged (← get).rest with
    | none => fault
    | some (closed, rest) =>
      modify (·.moveTo rest)
      if closed then return false
      discard <| admittingIn grammar.expression
      if ← atMark "\x7d" then return true else fault

/-- An array literal. -/
def arrayLiteral (grammar : Grammar) : Reading Form := do
  expect "["
  let fits ← iterate grammar.budget (fun fits => do
    if (← atFinish) || (← atMark "]") then return (fits, false)
    if ← eat "," then return (fits, true)
    let (_, form) ← grammar.spreadable
    unless ← atMark "]" do expect ","
    return (fits && form.fits, true)) true
  expect "]"
  return .literal fits

/-- Whether something can follow the key of a member of an object literal. -/
def atMemberRest (key : MemberKey) : Reading Bool := do
  let token ← current
  match token, key with
  | .mark "\x7d", .name _ => return true
  | _, _ =>
    return token.isWord || token.isLiteral
      || token.isOneOf ["(", "[", ":", ",", "?", "=", "*", "<"]

/-- A member of an object literal, and whether it can be read as one of a pattern. -/
def objectMember (grammar : Grammar) : Reading Bool := do
  if ← eat "..." then
    return (← admittingIn (grammar.rule .assignment)).fits
  if ← eat "*" then
    discard grammar.propertyKey
    discard <| grammar.functionRest false true
    return false
  eatParameterModifier
  let key ← grammar.propertyKey
  unless ← atMemberRest key do return true
  if ← eat ":" then
    return (← admittingIn (grammar.rule .assignment)).fits
  if ← atOneOf ["(", "<"] then
    discard <| grammar.functionRest false false
    return false
  match key with
  | .name word =>
    discard <| eat "?"
    if ← eat "=" then
      discard <| admittingIn (grammar.rule .assignment)
      return true
    if ← atOneOf [",", "\x7d"] then return true
    unless ["get", "set", "async"].contains word do fault
    let isGenerator ← if word == "async" then eat "*" else pure false
    discard grammar.propertyKey
    discard <| grammar.functionRest (word == "async") isGenerator
    return false
  | _ => fault

/-- An object literal. -/
def objectLiteral (grammar : Grammar) : Reading Form := do
  expect "\x7b"
  let fits ← iterate grammar.budget (fun fits => do
    if ← eat "\x7d" then return (fits, false)
    let memberFits ← grammar.objectMember
    unless ← atMark "\x7d" do expect ","
    return (fits && memberFits, true)) true
  return .literal fits

/-! ## Parentheses and arrow functions -/

/-- An item between parentheses. -/
inductive ParenItem where
  /-- A parameter, and whether it is a bare name. -/
  | parameter (isName : Bool)
  /-- An expression, and whether three dots stand in front of it. -/
  | value (spread : Bool) (form : Form)

namespace ParenItem

/-- Whether the item is a single name. -/
def isName : ParenItem → Bool
  | parameter isName => isName
  | value spread (.name _) => !spread
  | value _ _ => false

/-- Whether the item can only be a parameter. -/
def isParameter : ParenItem → Bool
  | parameter _ => true
  | value _ _ => false

/-- Whether the item can be a parameter. -/
def fits : ParenItem → Bool
  | parameter _ => true
  | value _ form => form.fits

/-- Whether three dots stand in front of the item. -/
def isSpread : ParenItem → Bool
  | parameter _ => false
  | value spread _ => spread

end ParenItem

/-- The expression of an item between parentheses.  Behind a name the question mark of an optional
parameter may follow, so a conditional expression is not read here. -/
def parenValue (grammar : Grammar) : Reading (Bool × Form) := do
  if ← atName then
    return (false, ← grammar.assignmentTo (← grammar.operands))
  else if (← atMark "...") && (← following).token.isName then
    advance
    return (true, ← admittingIn grammar.operands)
  else grammar.spreadable

/-- The expression of an item with what a question mark behind it makes of it, and whether that is
an optional parameter. -/
def optionalValue (grammar : Grammar) : Reading (Bool × Form × Bool) := do
  let (spread, form) ← grammar.parenValue
  if !(← atMark "?") then return (spread, form, false)
  else if (← following).token.isOneOf [",", ":", ")", "="] then
    advance
    match form with
    | .name _ => return (spread, form, true)
    | _ => fault
  else if spread then return (spread, form, false)
  else
    advance
    return (spread, ← grammar.branches, false)

/-- An item between parentheses. -/
def parenItem (grammar : Grammar) : Reading ParenItem := do
  let index := (← get).index
  within (fun mode => { mode with arrowStart := some index }) do
    eatParameterModifier
    let (spread, form, isOptional) ← grammar.optionalValue
    if isOptional || (← atMark ":") then
      if !form.fits then fault
      if spread || form.takesType then grammar.optionalTypeMark
      if ← eat "=" then
        discard <| grammar.rule .assignment
        return .parameter false
      match form with
      | .name _ => return .parameter !spread
      | _ => return .parameter false
    else return .value spread form

/-- The items between parentheses. -/
def parenItems (grammar : Grammar) : Reading (List ParenItem) :=
  freeOfColon <| admittingIn do
    expect "("
    let items ← iterate grammar.budget (fun items => do
      if (← atFinish) || (← atMark ")") then return (items, false)
      let item ← grammar.parenItem
      let items := items ++ [item]
      let headsArrow ← eat "=>"
      let arrows ← if headsArrow && items.head?.any (·.isName) then do
          grammar.arrowBody false
          pure [ParenItem.value false .arrow]
        else pure []
      unless ← atMark ")" do expect ","
      return (items ++ arrows, true)) []
    expect ")"
    return items

/-- The body of an arrow function behind its parameters.  Operators may follow a body in braces. -/
def arrowRest (grammar : Grammar) (isAsync : Bool) (items : List ParenItem) : Reading Form := do
  if !items.all (·.fits) then fault
  let inBraces ← atMark "\x7b"
  grammar.arrowBody isAsync
  if inBraces && (← current).isOperator then grammar.rule (.operation .arrow 0) else return .arrow

/-- An arrow function whose result type could also be the end of a conditional expression. -/
def arrowInConditional? (grammar : Grammar) (isAsync : Bool) (items : List ParenItem) :
    Reading (Option Form) := do
  if (← read).inConditional && (← atMark ":") then
    attempt do
      grammar.resultType ":"
      expect "=>"
      if !items.all (·.fits) then fault
      grammar.arrowBody isAsync
      if (← read).colonFollows && !(← atMark ":") then fault
      return some .arrow
  else return none

/-- Parentheses: an expression, the arguments of a function named `async`, or an arrow function. -/
def parenthesized (grammar : Grammar) (isAsync mayArrow : Bool) : Reading Form := do
  let items ← grammar.parenItems
  if let some form ← grammar.arrowInConditional? isAsync items then return form
  let hasResult ←
    if (← atMark ":") && !(← read).colonFollows then
      attempt do
        grammar.resultType ":"
        if ← atMark "=>" then return some () else return none
    else pure none
  if items.any (·.isParameter) || hasResult.isSome || (← atMark "=>") then
    if (← opensLine) || !mayArrow then fault
    expect "=>"
    grammar.arrowRest isAsync items
  else if isAsync then return .other
  else if items.isEmpty || items.any (·.isSpread) then fault
  else return .other

/-- An asynchronous arrow function with type parameters, behind the word `async`. -/
def genericAsyncArrow (grammar : Grammar) : Reading Unit := do
  grammar.typeParameters
  expect "("
  discard <| grammar.rule .parameters
  expect ")"
  if ← atMark ":" then grammar.resultType ":"
  expect "=>"
  grammar.arrowBody true

/-! ## Operands of all kinds -/

/-- A function as an expression, which has a body. -/
def functionExpression (grammar : Grammar) (isAsync : Bool) : Reading Form := do
  if ← grammar.functionTail isAsync true then return .other else fault

/-- What the word `async` begins, if it is no name. -/
def asyncOperand? (grammar : Grammar) (mayArrow : Bool) : Reading (Option Form) := do
  let next ← following
  if next.token == .word "function" && !next.opensLine then
    advance
    some <$> grammar.functionExpression true
  else if mayArrow && next.token == .mark "(" then
    advance
    some <$> grammar.parenthesized true true
  else if mayArrow && next.token == .mark "<" then
    attempt do
      advance
      grammar.genericAsyncArrow
      return some .arrow
  else return none

/-- An arrow function with one parameter without parentheses, behind the word `async`. -/
def asyncNameArrow (grammar : Grammar) : Reading Form := do
  let word ← declaredName
  if word == "as" && !(← atMark "=>") then
    grammar.rule .type
    return .other
  expect "=>"
  grammar.arrowBody true
  return .arrow

/-- A name, or an arrow function that begins with one. -/
def nameOperand (grammar : Grammar) (mayArrow : Bool) : Reading Form := do
  let word ← usedName
  let headsLoop ← (atWord "of") <&&> (not <$> beforeMark "=>")
  if mayArrow && word == "async" && (← sameLine atName) && !headsLoop then grammar.asyncNameArrow
  else if mayArrow && (← sameLine (atMark "=>")) then
    advance
    grammar.arrowBody false
    return .arrow
  else return .name word

/-- An operand that no other rule covers: a class, a name, or a hidden name. -/
def namedOperand (grammar : Grammar) (mayArrow : Bool) : Reading Form := do
  let decorators ← grammar.rule .decorators
  if ← atWord "class" then
    collect (.scope [← grammar.rule (.classBody true decorators)])
    return .other
  else if ← atAnyWord then grammar.nameOperand mayArrow
  else
    expect "#"
    discard anyWord
    return .other

/-- An operand without operators and members. -/
def operand (grammar : Grammar) : Reading Form := do
  let mayArrow := (← read).arrowStart == some (← get).index
  match ← current with
  | .quoted _ | .number | .bigInteger | .word "this" | .word "null" | .word "true"
  | .word "false" => do advance; return .other
  | .mark "[" => freeOfColon grammar.arrayLiteral
  | .mark "\x7b" => freeOfColon grammar.objectLiteral
  | .mark "/" | .mark "/=" => do regularExpression; return .other
  | .mark "`" => do freeOfColon (grammar.template false); return .other
  | .mark "(" => grammar.parenthesized false mayArrow
  | .word "function" => grammar.functionExpression false
  | .word "async" =>
    match ← grammar.asyncOperand? mayArrow with
    | some form => return form
    | none => grammar.namedOperand mayArrow
  | _ => grammar.namedOperand mayArrow

end PageRoutes.Script.Grammar
