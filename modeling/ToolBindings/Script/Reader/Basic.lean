import ToolBindings.Script.Tree
/-!
# Reading from tokens

A `Reader` takes tokens off the front and gives a part of the tree, or stops. If the whole
text cannot be read, the token at which the reader stopped says what is wrong with it:
`Stop.verdict`.
-/
namespace ToolBindings.Script

structure Stop where
  /-- The tokens from the one on at which it stopped. -/
  rest : List Token
  /-- What is wrong there, if the token itself does not say it. -/
  cause : Option Flaw := none
deriving Repr

/-- What a token is wrong with where it must not stand. -/
def Token.flaw : Token → Flaw
  | invalid flaw _ => flaw
  | indent | dedent => .indentation
  | _ => .form

/-- Whether a text has a flaw that outranks others. -/
def hasLasting (tokens : List Token) : Bool :=
  tokens.any fun
    | .invalid _ lasting => lasting
    | _ => false

/-- What is wrong with a text whose reading stopped. -/
def Stop.verdict (stop : Stop) : Flaw :=
  match stop.cause with
  | some flaw => if hasLasting stop.rest then .form else flaw
  | none => (stop.rest.head?.map Token.flaw).getD .form

/-- Takes tokens off the front of a list. -/
abbrev Reader := StateT (List Token) (Except Stop)

namespace Reader

def stop {α : Type} : Reader α := fun rest => .error { rest }

/-- Stops for a cause other than the next token, unless that is no token at all. -/
def stopFor {α : Type} (flaw : Flaw) : Reader α
  | .invalid inner lasting :: rest => .error { rest := .invalid inner lasting :: rest }
  | rest => .error { rest, cause := some flaw }

def peek : Reader Token := return ((← get).head?).getD .finish

/-- Takes the next token off. -/
def advance : Reader Unit := modify (·.drop 1)

def nextIs (token : Token) : Reader Bool := return (← peek) == token

/-- Takes the next token off if it is a given one, and tells whether it is. -/
def accept (token : Token) : Reader Bool := do
  if ← nextIs token then
    advance
    return true
  else return false

/-- Takes off a token that must come next. -/
def expect (token : Token) : Reader Unit := do
  if !(← accept token) then stop

def anyName : Reader String := do
  match ← peek with
  | .name id =>
    advance
    return id
  | _ => stop

/-- Reads in one way, or from the same place in another if that fails. -/
def orElse {α : Type} (first second : Reader α) : Reader α := fun tokens =>
  match first tokens with
  | .ok result => .ok result
  | .error _ => second tokens

/-- Repeats a step that gives a new result until it gives none. The bound is the greatest
number of steps. -/
def iterate {α : Type} (bound : Nat) (step : α → Reader (Option α)) (start : α) : Reader α :=
  match bound with
  | 0 => return start
  | bound + 1 => do
    match ← step start with
    | some next => iterate bound step next
    | none => return start

/-- Parts one behind the other, as long as there is one. -/
def many {α : Type} (bound : Nat) (part : Reader (Option α)) : Reader (List α) := do
  let parts ← iterate bound (fun parts => return (← part).map (· :: parts)) []
  return parts.reverse

/-- One part or more with commas between them. -/
def separated {α : Type} (bound : Nat) (part : Reader α) : Reader (List α) := do
  let first ← part
  let rest ← many bound do
    if ← accept (.symbol ",") then return some (← part) else return none
  return first :: rest

/-- One part or more with commas between them and perhaps one behind the last, which is told.
A token says whether a part begins with it. -/
def listed {α : Type} (bound : Nat) (begins : Token → Bool) (part : Reader α) :
    Reader (List α × Bool) := do
  let first ← part
  let (parts, trailing) ← iterate bound (fun (parts, trailing) => do
    if trailing then
      if begins (← peek) then return some ((← part) :: parts, false) else return none
    else if ← accept (.symbol ",") then return some (parts, true)
    else return none) ([first], false)
  return (parts.reverse, trailing)

end Reader

/-- The rules that contain one another. Each rule is built on those of the next inner depth. -/
structure Rules where
  /-- No less than the number of tokens, also of expressions inside texts. -/
  bound : Nat
  expression : Reader Expr
  /-- An operand of a sign in front, of `**`, and of `await`. -/
  factor : Reader Expr
  pattern : Reader Pattern
  /-- What follows a colon: lines that are deeper, or statements on the same line. -/
  block : Reader (List Statement)

/-- Rules that read nothing. -/
def Rules.none (bound : Nat) : Rules := ⟨bound, Reader.stop, Reader.stop, Reader.stop, Reader.stop⟩

end ToolBindings.Script
