import PageRoutes.Script.Grammar.Name

/-!
# Types

The rules for types, type parameters and type arguments, and for the members of interfaces.
-/

namespace PageRoutes.Script.Grammar

open Reading

/-! ## Arguments and parameters -/

/-- Types in angle brackets. -/
def typeArguments (grammar : Grammar) : Reading Unit := do
  unless ← atOpeningAngle do fault
  advance
  grammar.commaList atClosingAngle (grammar.rule .type)
  closeAngle

/-- A type parameter with its constraint and its default. -/
def typeParameter (grammar : Grammar) : Reading Unit := do
  loop grammar.budget <| eatModifier [
    "public", "private", "protected", "readonly", "abstract", "const", "override", "in", "out"]
  discard anyWord
  if ← eatWord "extends" then grammar.rule .type
  if ← eat "=" then grammar.rule .type

/-- Type parameters in angle brackets. -/
def typeParameters (grammar : Grammar) : Reading Unit := do
  unless ← atOpeningAngle do fault
  advance
  grammar.commaList atClosingAngle grammar.typeParameter
  closeAngle

/-- Type parameters, if an angle bracket stands here. -/
def optionalTypeParameters (grammar : Grammar) : Reading Unit := do
  if ← atMark "<" then grammar.typeParameters

/-- A type behind a colon, if a colon stands here. -/
def optionalTypeMark (grammar : Grammar) : Reading Unit := do
  if ← eat ":" then grammar.rule .type

/-- What a function yields, behind the given mark: a type, or what it finds out about a
parameter. -/
def resultType (grammar : Grammar) (symbol : String) : Reading Unit := do
  expect symbol
  let next ← following
  let asserts := (← atWord "asserts") && next.token.isName
  let judges := (← atName) && next.token == .word "is" && !next.opensLine
  if asserts then advance
  if asserts || judges then
    discard anyWord
    if ← eatWord "is" then grammar.rule .type
  else grammar.rule .type

/-! ## Names -/

/-- Names between dots.  A dot may be the last of it. -/
def entityName (grammar : Grammar) (reservedWords : Bool) : Reading Unit := do
  discard anyWord
  loop grammar.budget do
    if !(← eat ".") then return false
    if !(← atMark "#") && !(← atAnyWord) then return false
    if reservedWords then discard anyWord else discard strictName
    return true

/-- Type arguments behind a name on the same line. -/
def typeArgumentsOfName (grammar : Grammar) : Reading Unit := do
  if ← sameLine atOpeningAngle then grammar.typeArguments

/-- A type from another module. -/
def importType (grammar : Grammar) : Reading Unit := do
  expectWord "import"
  expect "("
  demand
  advance
  expect ")"
  if ← eat "." then grammar.entityName false
  if ← atOpeningAngle then grammar.typeArguments

/-! ## Members -/

/-- The parameters of a signature with the closing parenthesis.  They have no defaults. -/
def signatureParameters (grammar : Grammar) : Reading (List Binder) := do
  let binders ← grammar.rule .parameters
  if binders.contains .withDefault then fault
  expect ")"
  return binders

/-- The parameters and the result of a signature. -/
def signature (grammar : Grammar) : Reading Unit := do
  if ← atOpeningAngle then grammar.typeParameters
  expect "("
  discard grammar.signatureParameters
  if ← atMark ":" then grammar.resultType ":"

/-- The end of a member of a type. -/
def typeMemberEnd : Reading Unit := do
  unless ← eat "," do expectEnd

/-- The key of a member of a type. -/
def typeMemberKey (grammar : Grammar) : Reading Unit := do
  if ← eat "[" then
    discard <| grammar.rule .assignment
    expect "]"
  else
    demand
    match ← current with
    | .number | .quoted _ => discard <| grammar.rule (.memberExpression true)
    | _ => memberName

/-- Whether the signature of an index stands here. -/
def atIndexSignature : Reading Bool :=
  ahead do
    expect "["
    if ← atName then
      advance
      atOneOf [":", ","]
    else return false

/-- The signature of an index. -/
def indexSignature (grammar : Grammar) : Reading Unit := do
  expect "["
  discard anyWord
  unless ← eat "," do expect ":"
  grammar.rule .type
  expect "]"
  grammar.optionalTypeMark
  typeMemberEnd

/-- The signature of a getter or a setter. -/
def accessorSignature (grammar : Grammar) : Reading Unit := do
  let getter ← eatWord "get"
  unless getter do expectWord "set"
  grammar.typeMemberKey
  expect "("
  if getter then
    expect ")"
    grammar.optionalTypeMark
  else
    if (← grammar.signatureParameters).isEmpty then fault
  typeMemberEnd

/-- The signature of a property or a method. -/
def propertySignature (grammar : Grammar) (isReadonly : Bool) : Reading Unit := do
  grammar.typeMemberKey
  discard <| eat "?"
  if (← atMark "(") || (← atOpeningAngle) then
    if isReadonly then fault
    grammar.signature
  else grammar.optionalTypeMark
  typeMemberEnd

/-- A member of an object type or an interface. -/
def typeMember (grammar : Grammar) : Reading Unit := do
  let constructs ← (atWord "new") <&&> ahead do
    advance
    (atMark "(") <||> atOpeningAngle
  if constructs then
    advance
    grammar.signature
    typeMemberEnd
  else if (← atMark "(") || (← atOpeningAngle) then
    grammar.signature
    typeMemberEnd
  else
    let isReadonly ← eatModifier ["readonly"]
    if ← atIndexSignature then grammar.indexSignature
    else
      let accessor ← attempt do
        if isReadonly then fault
        some <$> grammar.accessorSignature
      if accessor.isNone then grammar.propertySignature isReadonly

/-- The members of an object type or an interface in braces. -/
def typeMembers (grammar : Grammar) : Reading Unit := do
  expect "\x7b"
  loop grammar.budget do
    if ← atMark "\x7d" then return false
    grammar.typeMember
    return true
  expect "\x7d"

/-! ## Types in brackets -/

/-- Whether a type that is made from the members of another one stands here. -/
def atMappedType : Reading Bool :=
  ahead do
    expect "\x7b"
    if ← (eat "+") <||> (eat "-") then atWord "readonly"
    else
      discard <| eatWord "readonly"
      expect "["
      if ← atName then
        advance
        atWord "in"
      else return false

/-- A sign in front of a modifier, which then has to follow. -/
def signed (modifier : Reading Bool) : Reading Unit := do
  let sign ← (eat "+") <||> (eat "-")
  let modified ← modifier
  if sign && !modified then fault

/-- A type that is made from the members of another one. -/
def mappedType (grammar : Grammar) : Reading Unit := do
  expect "\x7b"
  signed (eatWord "readonly")
  expect "["
  discard anyWord
  expectWord "in"
  grammar.rule .type
  if ← eatWord "as" then grammar.rule .type
  expect "]"
  signed (eat "?")
  grammar.optionalTypeMark
  expectEnd
  expect "\x7d"

/-- An element of a tuple type. -/
def tupleElement (grammar : Grammar) : Reading Unit := do
  let _ ← attempt do
    discard <| eat "..."
    discard anyWord
    discard <| eat "?"
    expect ":"
    return some ()
  if ← eat "..." then grammar.rule .type
  else
    grammar.rule .type
    discard <| eat "?"

/-- The texts and types of a template type. -/
def templateType (grammar : Grammar) : Reading Unit := do
  loop grammar.budget do
    match afterChunk? false (← get).rest with
    | none => fault
    | some (closed, rest) =>
      modify (·.moveTo rest)
      if closed then return false
      grammar.rule .type
      if ← atMark "\x7d" then return true else fault

/-! ## Types with operators -/

/-- Whether the parameters of a function type stand here, and no type in parentheses. -/
def atFunctionParameters (grammar : Grammar) : Reading Bool :=
  ahead do
    expect "("
    if ← atOneOf [")", "..."] then return true
    eatParameterModifier
    if ← atAnyWord then advance
    else if ← atOneOf ["\x7b", "["] then discard <| grammar.rule .binder
    else fault
    if ← atOneOf [":", ",", "?", "="] then return true
    if ← eat ")" then atMark "=>" else return false

/-- A function type from its type parameters on. -/
def functionType (grammar : Grammar) : Reading Unit := do
  if ← atOpeningAngle then grammar.typeParameters
  expect "("
  discard grammar.signatureParameters
  grammar.resultType "=>"

/-- The type of what `this` is found out to be. -/
def thisPredicate (grammar : Grammar) : Reading Unit := do
  expectWord "this"
  if ← eatWord "is" then grammar.rule .type

/-- The words that are types if no dot follows. -/
def basicTypes : List String := [
  "void", "null", "any", "boolean", "bigint", "never", "number", "object", "string", "symbol",
  "unknown", "undefined", "intrinsic"]

/-- A type that begins with a word. -/
def namedType (grammar : Grammar) (word : String) : Reading Unit := do
  if word == "this" then
    advance
    if ← sameLine (eatWord "is") then grammar.rule .type
  else if word == "typeof" then
    advance
    if ← atWord "import" then grammar.importType else grammar.entityName true
    grammar.typeArgumentsOfName
  else if word == "import" then grammar.importType
  else if word == "true" || word == "false" then advance
  else if word == "asserts" && (← beforeWord "this") then
    advance
    grammar.thisPredicate
  else if basicTypes.contains word && !(← beforeMark ".") then advance
  else if Word.isPlain word || ["void", "yield", "null", "await", "break"].contains word then
    eatParameterModifier
    grammar.entityName true
    grammar.typeArgumentsOfName
  else fault

/-- A type without operators in front of or behind it. -/
def basicType (grammar : Grammar) : Reading Unit := do
  demand
  match ← current with
  | .word word => grammar.namedType word
  | .quoted _ | .number | .bigInteger => advance
  | .mark "-" =>
    advance
    match ← current with
    | .number | .bigInteger => advance
    | _ => fault
  | .mark "`" => grammar.templateType
  | .mark "\x7b" => if ← atMappedType then grammar.mappedType else grammar.typeMembers
  | .mark "[" =>
    advance
    grammar.commaList (atMark "]") grammar.tupleElement
    expect "]"
  | .mark "(" =>
    advance
    grammar.rule .type
    expect ")"
  | _ => fault

/-- A type with brackets behind it. -/
def arrayType (grammar : Grammar) : Reading Unit := do
  grammar.basicType
  loop grammar.budget do
    if ← sameLine (eat "[") then
      unless ← eat "]" do
        grammar.rule .type
        expect "]"
      return true
    else return false

/-- A type that a condition finds, with its constraint.  The constraint is one only if no question
mark follows that would make it a condition. -/
def inferredType (grammar : Grammar) : Reading Unit := do
  expectWord "infer"
  discard anyWord
  discard <| attempt do
    expectWord "extends"
    grammar.rule .plainType
    if (← read).inExtends || !(← atMark "?") then return some () else return none

/-- A type with operators in front. -/
def prefixedType (grammar : Grammar) : Reading Unit := do
  if (← atWord "keyof") || (← atWord "unique") || (← atWord "readonly") then
    advance
    grammar.rule .prefixedType
  else if ← atWord "infer" then grammar.inferredType
  else grammar.arrayType

/-- Types between operators, one of which may also stand in front. -/
def typesBetween (grammar : Grammar) (symbol : String) (element : Reading Unit) : Reading Unit := do
  discard <| eat symbol
  element
  loop grammar.budget do
    if ← eat symbol then
      element
      return true
    else return false

/-- A type that is not conditional. -/
def plainType (grammar : Grammar) : Reading Unit := do
  if (← atOpeningAngle) || ((← atMark "(") && (← grammar.atFunctionParameters)) then
    grammar.functionType
  else if (← atWord "new") || ((← atWord "abstract") && (← beforeWord "new")) then
    discard <| eatWord "abstract"
    expectWord "new"
    grammar.functionType
  else grammar.typesBetween "|" (grammar.typesBetween "&" (grammar.rule .prefixedType))

/-- A type. -/
def type (grammar : Grammar) : Reading Unit := do
  within (fun mode => { mode with inExtends := false }) (grammar.rule .plainType)
  if ← sameLine (eatWord "extends") then
    within (fun mode => { mode with inExtends := true }) (grammar.rule .plainType)
    expect "?"
    grammar.rule .type
    expect ":"
    grammar.rule .type

end PageRoutes.Script.Grammar
