import PageRoutes.Script.Grammar.Expression

/-!
# Classes

The rules for classes.  Many words modify a member, and every one of them can also be the name of a
member; which of the two it is shows in what follows it.
-/

namespace PageRoutes.Script.Grammar

open Reading

/-- What modifies a member of a class. -/
structure MemberModifiers where
  isAbstract : Bool := false
  overrides : Bool := false
  isReadonly : Bool := false
  isStatic : Bool := false

/-- Whether the parameters of a method follow. -/
def atMethodRest : Reading Bool :=
  atOneOf ["(", "<"]

/-- Whether a property can go on or end here; at the end of a line only with `asi`. -/
def atPropertyRest (asi : Bool) : Reading Bool := do
  if ← atOneOf ["!", ":", "=", "\x7d"] then return true
  else if asi then atEnd else atMark ";"

/-- A method behind its key. -/
def methodRest (grammar : Grammar) (key : MemberKey) (isAsync isGenerator : Bool) :
    Reading (Option Member) := do
  discard <| grammar.functionRest isAsync isGenerator
  return some ⟨key, .method⟩

/-- A property behind its key.  Its end may be missing. -/
def propertyRest (grammar : Grammar) (key : MemberKey) (kind : MemberKind) :
    Reading (Option Member) := do
  if key.isConstructor then fault
  discard <| eat "!"
  grammar.optionalTypeMark
  if ← eat "=" then discard <| admittingIn (grammar.rule .assignment)
  discard eatEnd
  return some ⟨key, kind⟩

/-- A member that is named by a word which usually is a modifier, behind that word; `none` if the
word modifies what follows. -/
def namedByModifier? (grammar : Grammar) (word : String) (asi : Bool) :
    Reading (Option (Option Member)) := do
  let key := MemberKey.name word
  if ← atMethodRest then some <$> grammar.methodRest key false false
  else if ← atPropertyRest asi then some <$> grammar.propertyRest key .property
  else return none

/-- The modifiers in front of a member that may stand in any order. -/
def memberModifiers (grammar : Grammar) (isStatic : Bool) : Reading MemberModifiers :=
  iterate grammar.budget (fun modifiers => do
    if (← atWord "static") && (← beforeMark "\x7b") then return (modifiers, false)
    match ← modifier? ["abstract", "readonly", "override", "static"] with
    | some "abstract" => return ({ modifiers with isAbstract := true }, true)
    | some "override" => return ({ modifiers with overrides := true }, true)
    | some "readonly" => return ({ modifiers with isReadonly := true }, true)
    | some _ => return ({ modifiers with isStatic := true }, true)
    | none => return (modifiers, false)) { isStatic }

/-- A constructor, or a method behind its key. -/
def functionMember (grammar : Grammar) (modifiers : MemberModifiers) (key : MemberKey) :
    Reading (Option Member) := do
  if modifiers.isReadonly then fault
  if key.isConstructor && !modifiers.isStatic then
    grammar.constructorRest
    return some ⟨key, .constructor⟩
  else grammar.methodRest key false false

/-- An asynchronous method behind the word `async`. -/
def asyncMember (grammar : Grammar) (modifiers : MemberModifiers) : Reading (Option Member) := do
  discard <| eatModifier ["override"]
  let isGenerator ← eat "*"
  let key ← grammar.memberKey
  if key.isConstructor || modifiers.isReadonly then fault
  discard <| eat "?"
  grammar.methodRest key true isGenerator

/-- A getter or a setter behind the word for it. -/
def accessorMember (grammar : Grammar) (modifiers : MemberModifiers) : Reading (Option Member) := do
  let key ← grammar.memberKey
  if key.isConstructor || modifiers.isReadonly then fault
  grammar.methodRest key false false

/-- A member with a key, behind all modifiers but `async`, `get` and `set`. -/
def keyedMember (grammar : Grammar) (modifiers : MemberModifiers) (kind : MemberKind) :
    Reading (Option Member) := do
  let key ← grammar.memberKey
  discard <| eat "?"
  if ← atMethodRest then grammar.functionMember modifiers key
  else
    let startsGenerator := (← opensLine) && (← atMark "*")
    let accesses := (key == .name "get" || key == .name "set") && !(← atPropertyRest false)
      && !startsGenerator
    if !accesses && (← atPropertyRest true) then grammar.propertyRest key kind
    else if key == .name "async" && !(← opensLine) then grammar.asyncMember modifiers
    else if accesses then grammar.accessorMember modifiers
    else fault

/-- Statements that run when the class is made. -/
def staticBlock (grammar : Grammar) : Reading (Option Member) := do
  grammar.rule .block
  return none

/-- A member behind its modifiers. -/
def modifiedMember (grammar : Grammar) (hasAccess : Bool) (modifiers : MemberModifiers) :
    Reading (Option Member) := do
  let stores ← eatWord "accessor"
  let named ← if stores then grammar.namedByModifier? "accessor" true else pure none
  if let some member := named then return member
  if modifiers.isStatic && (← atMark "\x7b") then grammar.staticBlock
  else if (← atWord "static") && (← beforeMark "\x7b") then
    advance
    grammar.staticBlock
  else if !modifiers.isAbstract && !modifiers.overrides && !hasAccess && (← atIndexSignature) then
    grammar.indexSignature
    return none
  else if ← eat "*" then
    let key ← grammar.memberKey
    grammar.methodRest key false true
  else grammar.keyedMember modifiers (if stores then .accessor else .property)

/-- A member of a class; `none` if it has no key. -/
def classMember (grammar : Grammar) : Reading (Option Member) := do
  (← grammar.rule .decorators).flatten.forM collect
  let declares ← eatWord "declare"
  let access ← modifier? ["public", "protected", "private", "in", "out"]
  let declares ← if declares then pure true else eatWord "declare"
  let named ← if declares then grammar.namedByModifier? "declare" true else pure none
  if let some member := named then return member
  let isStatic ← eatWord "static"
  let named ←
    if isStatic then
      if ← atMark "\x7b" then pure none else grammar.namedByModifier? "static" false
    else pure none
  if let some member := named then return member
  let modifiers ← grammar.memberModifiers isStatic
  let hasAccess := access.any fun word => word != "in" && word != "out"
  grammar.modifiedMember hasAccess modifiers

/-- The members of a class up to its closing brace, which may be missing at the end of the
script. -/
def classMembers (grammar : Grammar) : Reading (List Member) := do
  let members ← iterate grammar.budget (fun members => do
    if (← atFinish) || (← atMark "\x7d") then return (members, false)
    if ← eat ";" then return (members, true)
    match ← grammar.classMember with
    | some member => return (member :: members, true)
    | none => return (members, true)) []
  unless ← atFinish do expect "\x7d"
  return members.reverse

/-- The class that another one extends. -/
def superclass (grammar : Grammar) : Reading Unit := do
  discard grammar.callExpression
  if ← atMark "<" then grammar.typeArguments

/-- An interface that is extended or implemented. -/
def heritage (grammar : Grammar) : Reading Unit := do
  let word ← anyWord
  discard <| grammar.chain false false (.expression (.name word))
  if ← atMark "<" then grammar.typeArguments

/-- The interfaces that are extended or implemented. -/
def heritageList (grammar : Grammar) : Reading Unit :=
  grammar.commaList ((atMark "\x7b") <||> (atWord "implements") <||> (atWord "extends"))
    grammar.heritage

/-- The classes that a class extends, if it does so; more than one is one too many, but can be
read. -/
def superclasses (grammar : Grammar) : Reading Unit := do
  if ← eatWord "extends" then
    grammar.superclass
    loop grammar.budget do
      if ← eat "," then
        grammar.superclass
        return true
      else return false

/-- The interfaces that a class implements, if it does so. -/
def interfaces (grammar : Grammar) : Reading Unit := do
  if ← eatWord "implements" then grammar.heritageList

/-- A class from the word `class` on. -/
def classBody (grammar : Grammar) (nameOptional : Bool) (decorators : Decorators) :
    Reading Outline := do
  let ((name, members), inner) ← nested do
    expectWord "class"
    let name ← if nameOptional then optionalName else some <$> scopedName
    grammar.optionalTypeParameters
    grammar.superclasses
    grammar.superclasses
    grammar.interfaces
    grammar.interfaces
    grammar.superclasses
    expect "\x7b"
    return (name, ← grammar.classMembers)
  return .declaredClass name members (decorators.flatten ++ inner)

end PageRoutes.Script.Grammar
