import PageRoutes.Script.Phrase

/-!
# Names and modifiers

The rules for names that are used, names that are declared, the keys of members, and the words that
modify a declaration.  Such a word is a modifier only if something to modify follows it; otherwise
it is a name itself.
-/

namespace PageRoutes.Script

namespace Reading

/-- A name, where `yield` is one only if `yieldFree`. -/
def nameOr (yieldFree : Bool) : Reading String := do
  let word ← anyWord
  if Word.mayName yieldFree (← read).ambient word then return word else fault

/-- A name that is declared. -/
def declaredName : Reading String :=
  nameOr true

/-- A name that is declared for a block or a class, which may not be `let`. -/
def scopedName : Reading String := do
  if ← atWord "let" then fault else declaredName

/-- A name that is used. -/
def usedName : Reading String := do
  nameOr (!(← read).inGenerator)

/-- A name that is used and may not be `yield`. -/
def strictName : Reading String :=
  nameOr false

/-- A name that is declared, if one stands here. -/
def optionalName : Reading (Option String) := do
  if (← atName) || (← atWord "this") then return some (← declaredName) else return none

/-- A name behind a number sign, without a gap between the two. -/
def hiddenName : Reading Unit := do
  let adjacent := (← get).rest.head?.any fun c => isIdentifierStart c || c == '\\'
  expect "#"
  if adjacent then discard anyWord else fault

/-- The name of a member behind a dot. -/
def memberName : Reading Unit := do
  if ← atMark "#" then hiddenName else discard anyWord

/-! ## Modifiers -/

/-- Whether something that can be modified stands at the cursor. -/
def modifiable (cursor : Cursor) : Bool :=
  !cursor.opensLine &&
    (cursor.token.isWord || cursor.token.isLiteral
      || cursor.token.isOneOf ["[", "\x7b", "*", "...", "#"])

/-- One of the allowed modifiers, if one stands here. -/
def modifier? (allowed : List String) : Reading (Option String) := do
  match ← current with
  | .word word =>
    if allowed.contains word && modifiable (← following) then
      advance
      return some word
    else return none
  | .invalid | .finish => do demand; return none
  | _ => return none

/-- Whether one of the allowed modifiers stood here. -/
def eatModifier (allowed : List String) : Reading Bool :=
  return (← modifier? allowed).isSome

/-- Moves past a modifier of a parameter, if it stands in front of what it modifies. -/
def eatParameterModifier : Reading Unit := do
  let allowed := ["public", "protected", "private", "readonly"]
  if let .word word ← current then
    if allowed.contains word then
      let next := (← following).token
      if next.isWord || next.isOneOf ["\x7b", "["] then discard (modifier? allowed)

end Reading

namespace Grammar

open Reading

/-- The key of a member of a class or an object. -/
def propertyKey (grammar : Grammar) : Reading MemberKey := do
  demand
  match ← current with
  | .quoted value => do advance; return .text value
  | .number | .bigInteger => do advance; return .number
  | .word word => do advance; return .name word
  | .mark "[" =>
    advance
    admittingIn do
      discard <| grammar.rule .assignment
      loop grammar.budget do
        if ← eat "," then
          discard <| grammar.rule .assignment
          return true
        else return false
    expect "]"
    return .computed
  | _ => fault

/-- The key of a member of a class. -/
def memberKey (grammar : Grammar) : Reading MemberKey := do
  if ← atMark "#" then
    hiddenName
    return .hidden
  else grammar.propertyKey

end Grammar

end PageRoutes.Script
