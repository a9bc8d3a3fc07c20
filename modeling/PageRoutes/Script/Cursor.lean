import PageRoutes.Script.Outline
import PageRoutes.Script.Token

/-!
# Reading a script

A cursor stands at a token of a script and has collected the outlines of the statements behind it.
A reading moves the cursor or fails.  A reading that fails leaves the cursor where it met the
fault, because in a few places the language goes on from there; `attempt` takes the cursor back.
-/

namespace PageRoutes.Script

/-- A place in a script. -/
structure Cursor where
  /-- The token at which the cursor stands. -/
  token : Token
  /-- Whether a line ends in front of the token. -/
  opensLine : Bool
  /-- The script from the token on. -/
  source : List Char
  /-- The script behind the token. -/
  rest : List Char
  /-- The number of steps that the cursor has made. -/
  index : Nat
  /-- The outlines collected so far, the latest first. -/
  found : List Outline

namespace Cursor

/-- The cursor at the first token of a text. -/
def enter (endsLine : Bool) (index : Nat) (found : List Outline) (text : List Char) : Cursor :=
  match skipGap endsLine text with
  | ⟨opensLine, none⟩ => ⟨.invalid, opensLine, [], [], index, found⟩
  | ⟨opensLine, some source⟩ =>
    match readToken? source with
    | some (token, rest) => ⟨token, opensLine, source, rest, index, found⟩
    | none => ⟨.invalid, opensLine, source, source.tail, index, found⟩

/-- The cursor at the first token of a script. -/
def start (script : List Char) : Cursor :=
  enter true 0 [] script

/-- The cursor at the first token of some later part of the script. -/
def moveTo (cursor : Cursor) (text : List Char) : Cursor :=
  enter false (cursor.index + 1) cursor.found text

/-- The cursor at the next token. -/
def next (cursor : Cursor) : Cursor :=
  cursor.moveTo cursor.rest

/-- The cursor with an angle bracket as a token of its own, even if it begins a longer mark. -/
def splitAngle (cursor : Cursor) : Cursor :=
  match cursor.token, cursor.source with
  | .mark _, '<' :: rest => { cursor with token := .mark "<", rest := rest }
  | .mark _, '>' :: rest => { cursor with token := .mark ">", rest := rest }
  | _, _ => cursor

end Cursor

/-- What the surroundings of a construct say about it. -/
structure Mode where
  /-- Whether `in` is an operator here; in the head of a loop it is not. -/
  admitsIn : Bool := false
  /-- Whether the innermost function is a generator. -/
  inGenerator : Bool := false
  /-- Whether the innermost function is asynchronous. -/
  inAsync : Bool := false
  /-- Whether the parameters of a function are being read. -/
  inParameters : Bool := false
  /-- Whether the construct describes code that stands elsewhere. -/
  ambient : Bool := false
  /-- Whether the construct stands in a branch of a conditional expression. -/
  inConditional : Bool := false
  /-- Whether a colon has to follow the construct. -/
  colonFollows : Bool := false
  /-- Whether a question mark behind a constraint belongs to the surroundings. -/
  inExtends : Bool := false
  /-- Where the innermost expression began, if it can be the head of an arrow function. -/
  arrowStart : Option Nat := none
deriving Repr

/-- A step through a script. -/
abbrev Reading := ReaderT Mode (EStateM Unit Cursor)

namespace Reading

variable {α : Type}

/-- The reading that always fails. -/
def fault : Reading α :=
  throw ()

/-- Reads in other surroundings. -/
def within (change : Mode → Mode) (reading : Reading α) : Reading α :=
  fun mode => reading (change mode)

/-- Reads where `in` is an operator. -/
def admittingIn (reading : Reading α) : Reading α :=
  within (fun mode => { mode with admitsIn := true }) reading

/-- Reads where nothing is known about a colon. -/
def freeOfColon (reading : Reading α) : Reading α :=
  within (fun mode => { mode with colonFollows := false }) reading

/-- Reads, and takes the cursor back if that fails or comes to nothing. -/
def attempt (reading : Reading (Option α)) : Reading (Option α) :=
  fun mode cursor =>
    match reading mode cursor with
    | .ok (some result) after => .ok (some result) after
    | .ok none _ | .error _ _ => .ok none cursor

/-- Reads, and goes on from the fault if that fails. -/
def recover (reading : Reading α) : Reading (Option α) :=
  fun mode cursor =>
    match reading mode cursor with
    | .ok result after => .ok (some result) after
    | .error _ after => .ok none { after with found := cursor.found }

/-- Whether a reading would succeed with `true`; the cursor does not move. -/
def ahead (reading : Reading Bool) : Reading Bool :=
  fun mode cursor =>
    match reading mode cursor with
    | .ok result _ => .ok result cursor
    | .error _ _ => .ok false cursor

/-- Reads, and hands over the outlines that were met instead of collecting them. -/
def nested (reading : Reading α) : Reading (α × List Outline) :=
  fun mode cursor =>
    match reading mode { cursor with found := [] } with
    | .ok result after => .ok (result, after.found.reverse) { after with found := cursor.found }
    | .error fault after => .error fault { after with found := cursor.found }

/-- Collects an outline. -/
def collect (outline : Outline) : Reading Unit :=
  modify fun cursor => { cursor with found := outline :: cursor.found }

/-- Repeats a step as long as it says so, at most `budget` times. -/
def loop (budget : Nat) (step : Reading Bool) : Reading Unit :=
  match budget with
  | 0 => fault
  | budget + 1 => do if ← step then loop budget step

/-- Repeats a step on a state as long as it says so, at most `budget` times. -/
def iterate (budget : Nat) (step : α → Reading (α × Bool)) (state : α) : Reading α :=
  match budget with
  | 0 => fault
  | budget + 1 => do
    match ← step state with
    | (state, true) => iterate budget step state
    | (state, false) => return state

/-! ## The current token -/

/-- The token at which the cursor stands. -/
def current : Reading Token :=
  return (← get).token

/-- The cursor at the next token. -/
def following : Reading Cursor :=
  return (← get).next

/-- Whether a line ends in front of the current token. -/
def opensLine : Reading Bool :=
  return (← get).opensLine

/-- Whether something holds of the current token and no line ends in front of it. -/
def sameLine (test : Reading Bool) : Reading Bool := do
  if ← opensLine then return false else test

/-- Moves to the next token. -/
def advance : Reading Unit :=
  modify Cursor.next

/-- Fails at the end of the script, and fails at what is no token after passing it. -/
def demand : Reading Unit := do
  match ← current with
  | .finish => fault
  | .invalid => do advance; fault
  | _ => return

/-- Whether the script ends here. -/
def atFinish : Reading Bool :=
  return (← current) == .finish

/-- Whether the current token is the given mark. -/
def atMark (symbol : String) : Reading Bool :=
  return (← current) == .mark symbol

/-- Whether the current token is one of the given marks. -/
def atOneOf (symbols : List String) : Reading Bool :=
  return (← current).isOneOf symbols

/-- Whether the current token is the given word. -/
def atWord (word : String) : Reading Bool :=
  return (← current) == .word word

/-- Whether the current token is any word. -/
def atAnyWord : Reading Bool :=
  return (← current).isWord

/-- Whether the current token is a word that strict code may use as a name. -/
def atName : Reading Bool :=
  return (← current).isName

/-- Whether the next token is the given mark. -/
def beforeMark (symbol : String) : Reading Bool :=
  return (← following).token == .mark symbol

/-- Whether the next token is the given word. -/
def beforeWord (word : String) : Reading Bool :=
  return (← following).token == .word word

/-- Whether the current token is a word and the next one another on the same line. -/
def atPair (first second : String) : Reading Bool := do
  if ← atWord first then
    let next ← following
    return next.token == .word second && !next.opensLine
  else return false

/-- Moves past the given mark, if the cursor stands there. -/
def eat (symbol : String) : Reading Bool := do
  if ← atMark symbol then advance; return true
  else return false

/-- Moves past the given word, if the cursor stands there. -/
def eatWord (word : String) : Reading Bool := do
  if ← atWord word then advance; return true
  else return false

/-- Moves past the given mark. -/
def expect (symbol : String) : Reading Unit := do
  unless ← eat symbol do fault

/-- Moves past the given word. -/
def expectWord (word : String) : Reading Unit := do
  unless ← eatWord word do fault

/-- Moves past a text in quotation marks. -/
def expectQuoted : Reading Unit := do
  demand
  if (← current).isText then advance else fault

/-- Moves past any word. -/
def anyWord : Reading String := do
  demand
  match ← current with
  | .word text => do advance; return text
  | _ => fault

/-! ## The end of a statement

A statement ends with a semicolon, and without one at the end of the script, in front of a closing
brace or at the end of a line. -/

/-- Whether a statement can end here. -/
def atEnd : Reading Bool := do
  match ← current with
  | .mark ";" | .mark "\x7d" | .finish => return true
  | _ => opensLine

/-- Ends a statement, if one can end here. -/
def eatEnd : Reading Bool := do
  if ← eat ";" then return true else atEnd

/-- Ends a statement. -/
def expectEnd : Reading Unit := do
  unless ← eatEnd do fault

/-! ## Angle brackets

In a type every angle bracket is a token of its own. -/

/-- Whether a type goes on with an opening angle bracket. -/
def atOpeningAngle : Reading Bool := do
  modify fun (cursor : Cursor) =>
    if cursor.source.head? == some '<' then cursor.splitAngle else cursor
  atMark "<"

/-- Whether a type goes on with a closing angle bracket. -/
def atClosingAngle : Reading Bool := do
  modify fun (cursor : Cursor) =>
    if cursor.source.head? == some '>' then cursor.splitAngle else cursor
  atMark ">"

/-- Moves past a closing angle bracket. -/
def closeAngle : Reading Unit := do
  if ← atClosingAngle then advance else fault

end Reading

end PageRoutes.Script
