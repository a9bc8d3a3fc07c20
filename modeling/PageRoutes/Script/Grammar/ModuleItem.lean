import PageRoutes.Script.Grammar.Statement

/-!
# Imports and exports

The rules for what may stand at the top of a module and in the body of a namespace.  A declaration
behind `export` or `export default` is an item of its own; of any other statement each outline that
it leaves is an item.
-/

namespace PageRoutes.Script.Grammar

open Reading

/-! ## Other modules -/

/-- What a module is taken to be, behind its name. -/
def importAttributes (grammar : Grammar) : Reading Unit := do
  if ← sameLine ((eatWord "assert") <||> (eatWord "with")) then
    unless ← atMark "\x7b" do fault
    discard grammar.objectLiteral

/-- The name of a module to the end of the statement. -/
def moduleSource (grammar : Grammar) : Reading Unit := do
  expectQuoted
  grammar.importAttributes
  expectEnd

/-- The module that something comes from, to the end of the statement. -/
def fromClause (grammar : Grammar) : Reading Unit := do
  expectWord "from"
  grammar.moduleSource

/-- The name of something exported: a word, or a text, of which no word is yielded. -/
def exportedName : Reading (Option String) := do
  demand
  if (← current).isText then
    advance
    return none
  else some <$> anyWord

/-- A module or a name that another name is given to, to the end of the statement. -/
def importAlias (grammar : Grammar) : Reading Unit := do
  expect "="
  if (← atWord "require") && (← beforeMark "(") then
    advance
    advance
    expectQuoted
    expect ")"
  else grammar.entityName false
  expectEnd

/-! ## Specifiers -/

/-- The names behind `type` in front of which it says that only a type is meant, if it does.  The
word may also be the name itself, as may the word `as` behind it.  Yields the name that a further
`as` can follow. -/
def typeSpecifier? (newName : Reading String) (word : String) : Reading (Option String) := do
  if word == "type" && (← atAnyWord) then
    let second ← anyWord
    if second != "as" then return some second
    if ← atAnyWord then
      let third ← newName
      if third == "as" && (← atAnyWord) then discard newName
    return none
  else return some word

/-- Something that is exported under its own or another name. -/
def exportSpecifier : Reading Unit := do
  let rest : Reading Unit := do if ← eatWord "as" then discard exportedName
  match ← exportedName with
  | none => rest
  | some word => if (← typeSpecifier? anyWord word).isSome then rest

/-- Something that is imported under its own or another name. -/
def importSpecifier : Reading Unit := do
  match ← exportedName with
  | none =>
    expectWord "as"
    discard declaredName
  | some word =>
    if let some name ← typeSpecifier? declaredName word then
      if ← eatWord "as" then discard declaredName
      else if Word.isReserved name then fault

/-- Specifiers between commas with the closing brace. -/
def specifiers (grammar : Grammar) (specifier : Reading Unit) : Reading Unit := do
  loop grammar.budget do
    if (← atFinish) || (← atMark "\x7d") then return false
    specifier
    if ← atMark "\x7d" then return false
    expect ","
    return true
  expect "\x7d"

/-! ## Imports -/

/-- What is imported, in front of the module that it comes from. -/
def importClause (grammar : Grammar) : Reading Unit := do
  if ← atName then
    discard declaredName
    unless ← atWord "from" do expect ","
  if ← eat "*" then
    expectWord "as"
    discard declaredName
  else if ← eat "\x7b" then grammar.specifiers importSpecifier

/-- An import. -/
def importItem (grammar : Grammar) : Reading Unit := do
  if (← beforeMark "(") || (← beforeMark ".") then
    discard grammar.expression
    discard eatEnd
  else
    expectWord "import"
    if (← current).isText then grammar.moduleSource
    else
      let next := (← following).token
      if (← atWord "type") && next != .word "from" && next != .mark "," then advance
      if (← atName) && (← beforeMark "=") then
        advance
        grammar.importAlias
      else
        grammar.importClause
        grammar.fromClause

/-! ## Exports -/

/-- The outline of a declaration from what it left: the class that it declares, or a body. -/
def declarationOf : List Outline → Outline
  | [.declaredClass name members inner] => .declaredClass name members inner
  | [.namespaceBody inner] => .namespaceBody inner
  | outlines => .scope outlines

/-- The export of a declaration that may turn out not to stand here. -/
def exporting? (declaration : Reading (Option Unit)) : Reading (Option Item) := do
  let (declared, outlines) ← nested declaration
  return declared.map fun _ => .exported (declarationOf outlines)

/-- The export of a declaration. -/
def exporting {α : Type} (declaration : Reading α) : Reading Item := do
  let (_, outlines) ← nested declaration
  return .exported (declarationOf outlines)

/-- The default export of a declaration. -/
def exportingDefault {α : Type} (declaration : Reading α) : Reading Item := do
  let (_, outlines) ← nested declaration
  return .exportedDefault (declarationOf outlines)

/-- The default class, behind a word `abstract`. -/
def defaultClass (grammar : Grammar) (decorators : Decorators) : Reading Item :=
  exportingDefault do collect (← grammar.rule (.classBody true decorators))

/-- The default export, behind the word `default`; `none` if it declares nothing. -/
def defaultExport (grammar : Grammar) (decorators : Decorators) : Reading (Option Item) := do
  let decorators := decorators ++ (← grammar.rule .decorators)
  if ← atPair "abstract" "class" then
    advance
    some <$> grammar.defaultClass decorators
  else
    if (← atWord "abstract") && (← beforeWord "interface") then advance
    if ← eatWord "interface" then some <$> exportingDefault grammar.interface
    else if ← atWord "class" then some <$> grammar.defaultClass decorators
    else if ← atPair "async" "function" then
      advance
      some <$> exportingDefault (grammar.functionTail true true)
    else if ← atWord "function" then
      some <$> exportingDefault (grammar.functionTail false true)
    else
      discard <| admittingIn (grammar.rule .assignment)
      expectEnd
      return none

/-- The export of names, or of all that another module exports. -/
def namedExport (grammar : Grammar) : Reading Unit := do
  if ← eat "*" then
    if ← eatWord "as" then discard exportedName
    grammar.fromClause
  else
    expect "\x7b"
    grammar.specifiers exportSpecifier
    if ← atWord "from" then grammar.fromClause else discard eatEnd

/-- The export of a declaration that begins with a keyword, or of names; `none` in the second
case. -/
def declarationExport (grammar : Grammar) (decorators : Decorators) : Reading (Option Item) := do
  if ← atWord "class" then some <$> exporting (grammar.classDeclaration decorators)
  else if ← atPair "async" "function" then
    advance
    some <$> exporting (grammar.functionTail true false)
  else if ← atWord "function" then some <$> exporting (grammar.functionTail false false)
  else if (← atWord "const") && (← beforeWord "enum") then
    advance
    advance
    some <$> exporting grammar.enumeration
  else if ← atVariables then some <$> exporting (grammar.variableDeclaration false)
  else
    grammar.namedExport
    return none

/-- A declaration that begins with a word which is no keyword, if one stands here. -/
def wordedExport? (grammar : Grammar) (decorators : Decorators) : Reading (Option Item) := do
  match ← current with
  | .word word => attempt <| exporting? (grammar.worded decorators word true)
  | _ => return none

/-- An export of names or declarations, behind the words that single out other exports.  Decorators
may stand in front of the word `export` or behind it, but not both. -/
def plainExport (grammar : Grammar) (decorators : Decorators) : Reading (Option Item) := do
  if ← eatWord "type" then
    grammar.namedExport
    return none
  else if ← eatWord "default" then grammar.defaultExport decorators
  else
    let later ← grammar.rule .decorators
    if !decorators.isEmpty && !later.isEmpty then fault
    grammar.declarationExport (decorators ++ later)

/-- An export; `none` if it declares nothing. -/
def exportItem (grammar : Grammar) (decorators : Decorators) : Reading (Option Item) := do
  expectWord "export"
  demand
  let described ←
    if ← eatWord "declare" then exporting? (grammar.description decorators) else pure none
  if described.isSome then return described
  let declared ← grammar.wordedExport? decorators
  if declared.isSome then return declared
  if ← eatWord "import" then
    if (← atWord "type") && (← following).token.isName then advance
    discard anyWord
    grammar.importAlias
    return none
  else if ← eat "=" then
    discard grammar.expression
    expectEnd
    return none
  else if ← eatWord "as" then
    expectWord "namespace"
    discard strictName
    expectEnd
    return none
  else grammar.plainExport decorators

/-! ## Items -/

/-- An export or a statement at the top of a module or in the body of a namespace.  A statement
yields an item for each outline that it leaves. -/
def moduleItem (grammar : Grammar) : Reading (List Item) := do
  let (declared, outlines) ← nested do
    let decorators ← grammar.rule .decorators
    if ← atWord "import" then
      grammar.importItem
      return none
    else if ← atWord "export" then grammar.exportItem decorators
    else
      grammar.plainStatement true decorators
      return none
  return outlines.map .statement ++ declared.toList

/-- Items up to an end. -/
def itemsUntil (grammar : Grammar) (atClose : Reading Bool) : Reading (List Item) :=
  (·.reverse.flatten) <$> iterate grammar.budget (fun items => do
    if ← atClose then return (items, false)
    return ((← grammar.moduleItem) :: items, true)) []

/-- The body of a namespace, whose closing brace may be missing at the end of the script. -/
def namespaceBody (grammar : Grammar) : Reading Unit := do
  expect "\x7b"
  collect (.namespaceBody (← grammar.itemsUntil (atFinish <||> (eat "\x7d"))))

/-- The items of a module. -/
def moduleItems (grammar : Grammar) : Reading (List Item) :=
  grammar.itemsUntil atFinish

end PageRoutes.Script.Grammar
