import PageRoutes.Script.Grammar.Class

/-!
# Statements

The rules for statements and declarations inside a module.
-/

namespace PageRoutes.Script.Grammar

open Reading

/-! ## Blocks -/

/-- Statements up to a closing brace, which may be missing at the end of the script. -/
def untilBrace (grammar : Grammar) (statement : Reading Unit) : Reading Unit :=
  loop grammar.budget do
    if ← atFinish then return false
    if ← eat "\x7d" then return false
    statement
    return true

/-- Statements in braces. -/
def block (grammar : Grammar) : Reading Unit := do
  expect "\x7b"
  let (_, inner) ← nested (grammar.untilBrace (grammar.rule (.statement true)))
  unless inner.isEmpty do collect (.scope inner)

/-! ## Variables -/

/-- Whether the next token goes on behind `let` as a declaration. -/
def letDeclares : Reading Bool := do
  match (← following).token with
  | .mark symbol => return symbol == "\x7b" || symbol == "["
  | .word word => return Word.isPlain word || Word.halfKeywords.contains word
  | _ => return false

/-- Whether the declaration of variables stands here. -/
def atVariables : Reading Bool := do
  match ← current with
  | .word "const" | .word "var" => return true
  | .word "let" => letDeclares
  | _ => return false

/-- How long a variable lives, and whether it can change. -/
inductive VariableKind where
  /-- A variable of the whole function. -/
  | functionWide
  | mutable
  | constant
deriving DecidableEq

/-- A variable that is declared.  A pattern needs a value to take apart, except where a value need
not be given. -/
def declarator (grammar : Grammar) (inLoop : Bool) (kind : VariableKind) : Reading Unit := do
  let binder ← match ← current, kind with
    | .word _, .mutable | .word _, .constant => Binder.name <$> scopedName
    | _, _ => grammar.rule .binder
  if let .name _ := binder then discard <| eat "!"
  grammar.optionalTypeMark
  if inLoop && ((← atWord "of") || (← atWord "in")) then return
  if ← eat "=" then discard <| grammar.rule .assignment
  else if binder == .pattern && !(← read).ambient && (inLoop || kind != .constant) then fault

/-- Variables between commas; a semicolon may follow a comma. -/
def variableList (grammar : Grammar) (inLoop : Bool) (kind : VariableKind) : Reading Unit :=
  loop grammar.budget do
    if ← atMark ";" then return false
    grammar.declarator inLoop kind
    eat ","

/-- The end of a declaration of variables.  What stands there instead is passed over up to the next
end of a statement. -/
def variablesEnd (grammar : Grammar) : Reading Unit := do
  unless ← eatEnd do
    discard <| recover grammar.expression
    loop grammar.budget do
      if ← eatEnd then return false
      advance
      return (← current) != .invalid

/-- A declaration of variables in the head of a loop or as a statement. -/
def variableDeclaration (grammar : Grammar) (inLoop : Bool) : Reading Unit := do
  let kind : VariableKind :=
    match ← current with
    | .word "const" => .constant
    | .word "let" => .mutable
    | _ => .functionWide
  advance
  let namesNothing ←
    if inLoop then
      ahead do
        unless ← (eatWord "of") <||> (eatWord "in") do fault
        discard <| grammar.rule .assignment
        atMark ")"
    else pure false
  unless namesNothing do
    let declared := grammar.variableList inLoop kind
    if inLoop && kind == .functionWide then declared else admittingIn declared
    unless inLoop do grammar.variablesEnd

/-- Resources that are given back at the end of their block, behind the word `using`. -/
def resources (grammar : Grammar) : Reading Unit := do
  grammar.variableList false .functionWide
  discard eatEnd

/-! ## Conditions and loops -/

/-- An expression in parentheses. -/
def parenthesizedExpression (grammar : Grammar) : Reading Unit := do
  expect "("
  discard <| admittingIn grammar.expression
  expect ")"

/-- A statement behind a condition, behind the word `if`.  Without a closing parenthesis the
statement ends. -/
def conditional (grammar : Grammar) : Reading Unit := do
  expect "("
  discard <| admittingIn grammar.expression
  if ← eat ")" then
    grammar.rule (.statement false)
    if ← eatWord "else" then grammar.rule (.statement false)

/-- The rest of the head of a loop behind what it begins with and a semicolon. -/
def countingHead (grammar : Grammar) : Reading Unit := do
  unless ← eat ";" do
    discard <| admittingIn grammar.expression
    expect ";"
  unless ← atMark ")" do discard <| admittingIn grammar.expression

/-- The rest of the head of a loop over values or keys, and whether it is one over values. -/
def eachHead (grammar : Grammar) : Reading Bool := do
  if ← eatWord "of" then
    discard <| admittingIn (grammar.rule .assignment)
    return true
  else
    expectWord "in"
    discard <| admittingIn grammar.expression
    return false

/-- The head of a loop, and whether the loop runs over values. -/
def loopHead (grammar : Grammar) : Reading Bool := do
  if ← eat ";" then
    grammar.countingHead
    return false
  let target ←
    if ← atVariables then
      grammar.variableDeclaration true
      pure Form.other
    else
      within (fun mode => { mode with admitsIn := false }) grammar.expression
  if (← atWord "of") || (← atWord "in") then
    if !target.fits then fault
    grammar.eachHead
  else
    expect ";"
    grammar.countingHead
    return false

/-- A loop behind the word `for`.  Only a loop over values can wait for each of them. -/
def forLoop (grammar : Grammar) : Reading Unit := do
  let waits ← eatWord "await"
  expect "("
  let overValues ← grammar.loopHead
  expect ")"
  grammar.rule (.statement false)
  if waits && !overValues then fault

/-- A loop with its condition at the end, behind the word `do`. -/
def doLoop (grammar : Grammar) : Reading Unit := do
  grammar.rule (.statement false)
  expectWord "while"
  grammar.parenthesizedExpression
  discard eatEnd

/-- The cases of a choice, behind the word `switch`.  Only one of them is the default. -/
def choice (grammar : Grammar) : Reading Unit := do
  grammar.parenthesizedExpression
  expect "\x7b"
  let _ ← iterate grammar.budget (fun hasDefault => do
    let isDefault ← atWord "default"
    if !isDefault && !(← atWord "case") then return (hasDefault, false)
    if isDefault && hasDefault then fault
    advance
    unless isDefault do discard <| admittingIn grammar.expression
    expect ":"
    loop grammar.budget do
      if (← atFinish) || (← atMark "\x7d") || (← atWord "case") || (← atWord "default") then
        return false
      grammar.rule (.statement true)
      return true
    return (hasDefault || isDefault, true)) false
  expect "\x7d"

/-! ## Faults -/

/-- What handles a fault, if there is such a part. -/
def catchPart (grammar : Grammar) : Reading Unit := do
  if ← eatWord "catch" then
    if ← eat "(" then
      discard <| grammar.rule .binder
      grammar.optionalTypeMark
      expect ")"
    grammar.rule .block

/-- What is done in any case, if there is such a part. -/
def finallyPart (grammar : Grammar) : Reading Unit := do
  if ← eatWord "finally" then grammar.rule .block

/-! ## Declarations of types and namespaces -/

/-- A member of an enumeration and the comma behind it.  Behind a value the comma may be missing;
without a value any other token may take its place. -/
def enumMember (grammar : Grammar) : Reading Unit := do
  demand
  match ← current with
  | .quoted _ | .number => advance
  | .mark "[" =>
    advance
    discard grammar.expression
    expect "]"
  | _ => discard anyWord
  if ← eat "=" then
    discard <| grammar.rule .assignment
    discard <| eat ","
  else unless ← atMark "\x7d" do
    demand
    advance

/-- The members of an enumeration up to the closing brace. -/
def enumMembers (grammar : Grammar) : Reading Unit :=
  loop grammar.budget do
    if ← atMark "\x7d" then return false
    grammar.enumMember
    return true

/-- An enumeration behind the word `enum`. -/
def enumeration (grammar : Grammar) : Reading Unit := do
  discard anyWord
  expect "\x7b"
  grammar.enumMembers
  expect "\x7d"

/-- An interface behind the word `interface`. -/
def interface (grammar : Grammar) : Reading Unit := do
  discard anyWord
  grammar.optionalTypeParameters
  if ← eatWord "extends" then grammar.heritageList
  if ← atWord "extends" then
    loop grammar.budget do
      if (← atFinish) || (← atMark "\x7b") then return false
      advance
      return true
  grammar.typeMembers

/-- A name for a type behind the word `type`. -/
def typeAlias (grammar : Grammar) : Reading Unit := do
  discard anyWord
  grammar.optionalTypeParameters
  expect "="
  grammar.rule .type
  expectEnd

/-- A namespace behind the word for it. -/
def namespaceDeclaration (grammar : Grammar) : Reading Unit := do
  discard anyWord
  loop grammar.budget do
    if ← eat "." then
      discard anyWord
      return true
    else return false
  grammar.rule .namespaceBody

/-- The description of another module, or of what is known everywhere. -/
def moduleDescription (grammar : Grammar) : Reading Unit := do
  unless ← eatWord "global" do expectQuoted
  if ← atMark "\x7b" then grammar.rule .namespaceBody else expectEnd

/-- Declares a class. -/
def classDeclaration (grammar : Grammar) (decorators : Decorators) : Reading Unit := do
  collect (← grammar.rule (.classBody false decorators))

/-- A declaration that begins with a word which is no keyword.  The cursor stands at the word if
`isAt`; otherwise it stands behind it, and the word is a name unless what follows fits. -/
def worded (grammar : Grammar) (decorators : Decorators) (word : String) (isAt : Bool) :
    Reading (Option Unit) := do
  let rest (fits : Bool) (declaration : Reading Unit) : Reading (Option Unit) := do
    if isAt then
      advance
      some <$> declaration
    else if fits then some <$> declaration
    else return none
  let name ← atName
  let fresh ← opensLine
  match word with
  | "abstract" =>
    rest ((← atWord "class") && !fresh) (grammar.classDeclaration decorators)
  | "enum" => rest name grammar.enumeration
  | "interface" => rest name grammar.interface
  | "module" =>
    if fresh then return none
    rest (name || (← current).isText) do
      if (← current).isText then grammar.moduleDescription else grammar.namespaceDeclaration
  | "namespace" => rest name grammar.namespaceDeclaration
  | "type" => rest (name && !fresh) grammar.typeAlias
  | _ => return none

/-- The description of something that is declared elsewhere, behind the word `declare`; `none` if
that word is a name. -/
def description (grammar : Grammar) (decorators : Decorators) : Reading (Option Unit) :=
  within (fun mode => { mode with ambient := true }) do
    match ← current with
    | .word "function" => some <$> (discard <| grammar.functionTail false false)
    | .word "class" => some <$> grammar.classDeclaration decorators
    | .word "const" =>
      if ← beforeWord "enum" then
        advance
        advance
        some <$> grammar.enumeration
      else some <$> grammar.variableDeclaration false
    | .word "var" | .word "let" => some <$> grammar.variableDeclaration false
    | .word "global" => some <$> grammar.moduleDescription
    | .word word => grammar.worded decorators word true
    | _ => return none

/-! ## Statements -/

/-- A statement behind its label. -/
def labelled (grammar : Grammar) : Reading Unit := do
  if ← atWord "function" then discard <| grammar.functionTail false false
  else grammar.rule (.statement false)

/-- What a name begins that stands alone in front of the cursor; `none` if it is an expression. -/
def nameStatement (grammar : Grammar) (decorators : Decorators) (word : String) :
    Reading (Option Unit) := do
  if ← eat ":" then some <$> grammar.labelled
  else if word == "interface" && (← opensLine) then return some ()
  else if word == "declare" then grammar.description decorators
  else if word == "global" then
    if ← atMark "\x7b" then some <$> grammar.rule .namespaceBody else return none
  else if word == "using" && (← sameLine atName) then some <$> grammar.resources
  else grammar.worded decorators word false

/-- An expression as a statement, or what else begins with a name.  Without an end, an operator may
follow. -/
def expressionStatement (grammar : Grammar) (decorators : Decorators) : Reading Unit := do
  let form ← admittingIn grammar.expression
  let named ← match form with
    | .name word => grammar.nameStatement decorators word
    | _ => pure none
  if named.isNone then
    unless ← eatEnd do
      if (← current).isOperator then discard <| grammar.rule (.operation form 0) else fault

/-- Whether a declaration with the given word in front stands here. -/
def atWorded (word : String) : Reading Bool := do
  if ← atWord word then
    let next ← following
    return next.token.isWord && !next.opensLine
  else return false

/-- A statement that begins with one of the words for declarations of types, or an expression. -/
def wordedStatement (grammar : Grammar) (decorators : Decorators) : Reading Unit := do
  if ← atWorded "interface" then do advance; grammar.interface
  else if ← atWorded "type" then do advance; grammar.typeAlias
  else if ← atWorded "enum" then do advance; grammar.enumeration
  else if ← atPair "async" "function" then
    advance
    discard <| grammar.functionTail true false
  else grammar.expressionStatement decorators

/-- A statement behind its keyword, or none if the word is no keyword of statements. -/
def keywordStatement? (grammar : Grammar) (word : String) : Option (Reading Unit) :=
  match word with
  | "break" | "continue" => some do
    unless ← eatEnd do
      discard usedName
      expectEnd
  | "debugger" => some expectEnd
  | "do" => some grammar.doLoop
  | "for" => some grammar.forLoop
  | "if" => some grammar.conditional
  | "return" => some do
    unless ← atEnd do discard <| admittingIn grammar.expression
    expectEnd
  | "switch" => some grammar.choice
  | "throw" => some do
    if ← opensLine then fault
    discard <| admittingIn grammar.expression
    expectEnd
  | "try" => some do
    grammar.rule .block
    grammar.catchPart
    grammar.finallyPart
  | "with" | "while" => some do
    grammar.parenthesizedExpression
    grammar.rule (.statement false)
  | _ => none

/-- A statement that is neither an import nor an export, behind its decorators. -/
def plainStatement (grammar : Grammar) (declares : Bool) (decorators : Decorators) :
    Reading Unit :=
  freeOfColon do
    demand
    match ← current with
    | .mark "\x7b" => grammar.rule .block
    | .mark ";" => advance
    | .word "function" => discard <| grammar.functionTail false false
    | .word "class" => grammar.classDeclaration decorators
    | .word "catch" =>
      discard <| recover grammar.catchPart
      discard <| recover grammar.finallyPart
    | .word "finally" => discard <| recover grammar.finallyPart
    | .word word =>
      if (← atWord "const") && (← beforeWord "enum") then
        advance
        advance
        grammar.enumeration
      else if word == "var" || (declares && (← atVariables)) then
        grammar.variableDeclaration false
      else if declares && word == "await" && (← beforeWord "using") then
        advance
        advance
        grammar.resources
      else match grammar.keywordStatement? word with
        | some rest => do advance; rest
        | none => grammar.wordedStatement decorators
    | _ => grammar.expressionStatement decorators

/-- A statement inside a block.  Of imports only the expressions are allowed here. -/
def statement (grammar : Grammar) (declares : Bool) : Reading Unit := do
  let decorators ← grammar.rule .decorators
  if ← atWord "export" then fault
  else if ← atWord "import" then
    if (← beforeMark "(") || (← beforeMark ".") then
      discard grammar.expression
      discard eatEnd
    else fault
  else grammar.plainStatement declares decorators

end PageRoutes.Script.Grammar
