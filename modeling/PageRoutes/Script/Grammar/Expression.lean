import PageRoutes.Script.Grammar.Operand

/-!
# Expressions

The rules for members, calls and constructions behind an operand, for operators in front of one,
and for whole expressions.
-/

namespace PageRoutes.Script.Grammar

open Reading

/-! ## Members and calls -/

/-- What members and calls can follow. -/
inductive Subject where
  | expression (form : Form)
  /-- The class above, which only has members and a constructor. -/
  | superclass
  /-- The word `import`, which can only be called. -/
  | importer
deriving DecidableEq

namespace Subject

/-- The form of an expression; the other subjects are no expressions on their own. -/
def form? : Subject → Option Form
  | expression form => some form
  | superclass | importer => none

/-- The form of a member of the subject. -/
def member : Subject → Form
  | expression form => form.member
  | superclass | importer => .other

end Subject

/-- Type arguments that make a value of a generic one, and no comparison with the operand that
follows. -/
def instantiation? (grammar : Grammar) : Reading (Option Unit) := do
  if ← atMark "<" then
    attempt do
      grammar.typeArguments
      let token ← current
      if token.isOneOf ["<", ">", "+", "-", "(", "`"] then return none
      else if (← opensLine) || token.isOperator || !token.beginsOperand then return some ()
      else return none
  else return none

/-- Type arguments and what has to follow them behind an expression: a call, a template, or the end
of the expression. -/
def typedRest? (grammar : Grammar) (calls : Bool) : Reading (Option Bool) := do
  if ← atMark "<" then
    attempt do
      grammar.typeArguments
      if calls && (← atMark "(") then
        grammar.arguments
        return some true
      else if ← atMark "`" then
        grammar.template true
        return some true
      else if (← atMark "=") || (← atWord "as") || (← atWord "satisfies") then return some false
      else return none
  else return none

/-- One link behind a subject, and whether there was one.  A link that stops at a missing value
begins with a question mark. -/
def link (grammar : Grammar) (calls computed : Bool) (subject : Subject) :
    Reading (Subject × Bool) := do
  let isInstance := (← grammar.instantiation?).isSome
  let stops ← (atMark "?") <&&> (beforeMark ".")
  if stops then advance
  let dotted (symbol : String) : Reading Bool :=
    if stops then (atMark ".") <&&> (beforeMark symbol) else return false
  let form := if stops then Form.optionalLink else subject.member
  if computed && (← dotted "[") then advance
  if computed && (← atMark "[") then
    advance
    discard <| admittingIn grammar.expression
    expect "]"
    return (.expression form, true)
  if (← dotted "(") || (← dotted "<") then
    advance
    if ← atMark "<" then grammar.typeArguments
    grammar.arguments
    return (.expression .optionalLink, true)
  if calls && (← atMark "(") then
    grammar.arguments
    return (.expression .other, true)
  if ← eat "." then
    memberName
    return (.expression form, true)
  match subject.form? with
  | none => fault
  | some bare =>
    if ← atMark "`" then
      grammar.template true
      return (.expression .other, true)
    else return (.expression (if isInstance then .other else bare), false)

/-- One link or type argument list behind a subject, and whether there was one. -/
def chainStep (grammar : Grammar) (calls computed : Bool) (subject : Subject) :
    Reading (Subject × Bool) := do
  if ← sameLine (atMark "!") then
    advance
    if subject.form?.isNone then fault
    return (.expression .other, true)
  let typed ← if subject.form?.isSome then grammar.typedRest? calls else pure none
  match typed with
  | some more => return (.expression .other, more)
  | none => grammar.link calls computed subject

/-- All links behind a subject.  Without `calls` no call may be among them, and without `computed`
no member in brackets. -/
def chain (grammar : Grammar) (calls computed : Bool) (subject : Subject) : Reading Form := do
  match ← iterate grammar.budget (grammar.chainStep calls computed) subject with
  | .expression form => return form
  | _ => fault

/-- What the word `import` begins: what the module knows of itself, or a call. -/
def importExpression (grammar : Grammar) (calls : Bool) : Reading Form := do
  expectWord "import"
  if ← eat "." then
    expectWord "meta"
    grammar.chain calls true (.expression .other)
  else grammar.chain calls true .importer

/-- A construction. -/
def construction (grammar : Grammar) (bare : Bool) : Reading Form := do
  expectWord "new"
  if ← eat "." then
    expectWord "target"
    grammar.chain false true (.expression .other)
  else
    let constructed ← grammar.rule (.memberExpression bare)
    if bare && (constructed == .optionalLink || constructed == .afterOptionalLink) then fault
    if (← atMark "<") || (← atMark "<<") then
      discard <| attempt do
        grammar.typeArguments
        if ← atMark "(" then return some () else return none
    if (← atMark "(") || !bare then
      grammar.arguments
      grammar.chain false true (.expression .other)
    else return .bareNew

/-- An operand with its members and constructions. -/
def memberExpression (grammar : Grammar) (bare : Bool) : Reading Form := do
  match ← current with
  | .word "new" => grammar.construction bare
  | .word "super" => do advance; grammar.chain false true .superclass
  | .word "import" => grammar.importExpression false
  | _ =>
    let form ← grammar.operand
    if form == .arrow then return .arrow
    let isInstance := (← grammar.instantiation?).isSome
    grammar.chain false true (.expression (if isInstance then .other else form))

/-- An operand with its members, constructions and calls. -/
def callExpression (grammar : Grammar) : Reading Form := do
  match ← current with
  | .word "super" => do advance; grammar.chain true true .superclass
  | .word "import" => grammar.importExpression true
  | _ =>
    let form ← grammar.rule (.memberExpression true)
    if form == .arrow || form == .bareNew then return form
    if (← atMark "<") || (← atMark "<<") then
      discard <| attempt do
        grammar.typeArguments
        if ← atMark "(" then return some () else return none
    if ← atMark "(" then
      grammar.arguments
      grammar.chain true true (.expression .other)
    else return form

/-! ## Decorators -/

/-- A decorator: a name with members and arguments, or an expression in parentheses. -/
def decorator (grammar : Grammar) : Reading Unit := do
  expect "@"
  if ← eat "(" then
    discard grammar.expression
    expect ")"
  else
    let word ← strictName
    discard <| grammar.chain true false (.expression (.name word))
  if ← atMark "<" then
    grammar.typeArguments
    grammar.arguments
  else if ← atMark "(" then grammar.arguments

/-- Decorators, of which there may be none. -/
def decorators (grammar : Grammar) : Reading Decorators :=
  List.reverse <$> iterate grammar.budget (fun decorators => do
    if ← atMark "@" then
      let (_, inner) ← nested grammar.decorator
      return (inner :: decorators, true)
    else return (decorators, false)) []

/-! ## Operators in front -/

/-- An operand of `await`. -/
def awaitExpression (grammar : Grammar) : Reading Form := do
  expectWord "await"
  if ← atMark "*" then fault
  if !(← read).inAsync && (← atOneOf [")", "]"]) then return .name "await"
  discard <| grammar.rule .unary
  return .awaited

/-- An operand with the operators in front of and behind it.  An operand may be missing behind an
operator that stands in front. -/
def unary (grammar : Grammar) : Reading Form := do
  match ← current with
  | .mark "<" =>
    advance
    unless ← eatWord "const" do grammar.rule .type
    closeAngle
    discard <| grammar.rule .unary
    return .other
  | .mark "++" | .mark "--" =>
    advance
    discard <| grammar.rule .unary
    return .operation
  | .mark "+" | .mark "-" | .mark "~" | .mark "!" | .word "delete" | .word "void"
  | .word "typeof" =>
    advance
    discard <| recover (grammar.rule .unary)
    return .prefixed
  | .word "await" => grammar.awaitExpression
  | _ =>
    let form ← grammar.callExpression
    if form == .arrow then return .arrow
    if ← sameLine (atOneOf ["++", "--"]) then
      advance
      return .operation
    else return form

/-! ## Whole expressions -/

/-- What a generator yields. -/
def yieldExpression (grammar : Grammar) : Reading Form := do
  expectWord "yield"
  if (← read).inParameters then fault
  let token ← current
  if (← atEnd) || !(token == .mark "*" || token.beginsExpression) then return .other
  discard <| eat "*"
  discard <| grammar.rule .assignment
  return .other

/-- An expression that is no type parameter list with an arrow function behind it. -/
def plainAssignment (grammar : Grammar) : Reading Form := do
  demand
  let token ← current
  if token == .word "yield" && (← read).inGenerator then grammar.yieldExpression
  else
    let mayArrow := token == .mark "(" || token == .word "yield" || token.word?.any Word.isPlain
    let index := (← get).index
    let arrowStart := if mayArrow then some index else none
    within (fun mode => { mode with arrowStart := arrowStart }) do
      let first ← grammar.operands
      if first == .arrow then return .arrow
      else if ← eat "?" then grammar.branches
      else if first.takesAssignment then grammar.assignmentTo first
      else return first

/-- An expression without commas. -/
def assignment (grammar : Grammar) : Reading Form := do
  let generic ←
    if (← atMark "<") && (← following).token.isWord then
      attempt <| freeOfColon do
        grammar.typeParameters
        if (← grammar.plainAssignment) == .arrow then return some () else return none
    else pure none
  if generic.isSome then return .arrow else grammar.plainAssignment

end PageRoutes.Script.Grammar
