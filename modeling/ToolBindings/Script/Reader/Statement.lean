import ToolBindings.Script.Reader.Pattern
/-!
# Reading statements

Simple statements stand on a line, with semicolons between them; the others have blocks. A
block is a line of simple statements behind the colon, or lines that are deeper.
-/
namespace ToolBindings.Script
open Reader

/-! ## Simple statements -/

/-- The operators that change what a target holds. -/
def updateOperators : List (String × BinaryOp) := [
  ("+=", .add), ("-=", .sub), ("*=", .mul), ("@=", .matMul), ("/=", .div), ("//=", .floorDiv),
  ("%=", .mod), ("**=", .pow), ("<<=", .shiftLeft), (">>=", .shiftRight), ("&=", .bitAnd),
  ("|=", .bitOr), ("^=", .bitXor)]

/-- Whether one target alone can be updated or annotated. -/
def Expr.isSingleTarget : Expr → Bool
  | .name _ | .member .. | .item .. => true
  | _ => false

/-- The right sides of an assignment, of which all but the last are targets. -/
def assignmentFrom (r : Rules) (first : Expr) : Reader Statement := do
  let (parts, _) ← iterate r.bound (fun (parts, more) => do
    if !more then return none
    else
      let part ← assigned r
      return some (part :: parts, ← accept (.symbol "="))) ([first], true)
  match parts with
  | value :: targets =>
    if areTargets targets then return .assign targets.reverse value else stopFor .form
  | [] => stop

/-- An expression for itself, or one to which something is assigned. -/
def expressionStatement (r : Rules) : Reader Statement := do
  let bare := (← peek) matches .name _
  let first ← assigned r
  match ← peek with
  | .symbol ":" =>
    if !first.isSingleTarget then stop
    advance
    let note ← r.expression
    let value ← if ← accept (.symbol "=") then some <$> assigned r else pure none
    return .annotate first bare note value
  | .symbol "=" =>
    advance
    assignmentFrom r first
  | .symbol sign =>
    match updateOperators.lookup sign with
    | some op =>
      if !first.isSingleTarget then stop
      advance
      return .update first op (← assigned r)
    | none => return .expression first
  | _ => return .expression first

def deletion (r : Rules) : Reader Statement := do
  let (targets, _) ← listed r.bound Token.beginsExpression (operand r)
  if areDeletable targets then return .delete targets else stopFor .form

/-- The name under which something is known, if another one is given. -/
def knownAs? : Reader (Option String) := do
  if ← accept (.keyword "as") then return some (← anyName) else return none

def importStatement (r : Rules) : Reader Statement := do
  let names ← separated r.bound do
    let (first, rest) ← dotted r
    return { path := first :: rest, knownAs := ← knownAs? }
  return .load names

def importFromStatement (r : Rules) : Reader Statement := do
  let dots ← many r.bound do
    if ← accept (.symbol ".") then return some 1
    else if ← accept (.symbol "...") then return some 3
    else return none
  let level := dots.foldl (· + ·) 0
  let path ← match ← peek with
    | .name _ => (fun (first, rest) => first :: rest) <$> dotted r
    | _ => if level = 0 then stop else pure []
  expect (.keyword "import")
  let name : Reader ImportName := do return { path := [← anyName], knownAs := ← knownAs? }
  if ← accept (.symbol "*") then return .loadFrom level path none
  else if ← accept (.symbol "(") then
    let (names, _) ← listed r.bound (fun token => token matches .name _) name
    expect (.symbol ")")
    return .loadFrom level path (some names)
  else return .loadFrom level path (some (← separated r.bound name))

def simpleStatement (r : Rules) : Reader Statement := do
  match ← peek with
  | .keyword "pass" =>
    advance
    return .pass
  | .keyword "break" =>
    advance
    return .leaveLoop
  | .keyword "continue" =>
    advance
    return .nextRound
  | .keyword "return" =>
    advance
    if (← peek).beginsItem then return .give (some (← expressions r)) else return .give none
  | .keyword "raise" =>
    advance
    if (← peek).beginsExpression then
      let error ← r.expression
      let cause ← if ← accept (.keyword "from") then some <$> r.expression else pure none
      return .raise (some error) cause
    else return .raise none none
  | .keyword "global" =>
    advance
    return .globals (← separated r.bound anyName)
  | .keyword "nonlocal" =>
    advance
    return .nonlocals (← separated r.bound anyName)
  | .keyword "del" =>
    advance
    deletion r
  | .keyword "assert" =>
    advance
    let condition ← r.expression
    let message ← if ← accept (.symbol ",") then some <$> r.expression else pure none
    return .check condition message
  | .keyword "import" =>
    advance
    importStatement r
  | .keyword "from" =>
    advance
    importFromStatement r
  | _ => expressionStatement r

def simpleStatements (r : Rules) : Reader (List Statement) := do
  let first ← simpleStatement r
  let (found, _) ← iterate r.bound (fun (found, more) => do
    if !more || (← nextIs .newline) then return none
    else return some ((← simpleStatement r) :: found, ← accept (.symbol ";")))
    ([first], ← accept (.symbol ";"))
  expect .newline
  return found.reverse

/-! ## Statements with blocks -/

def colonBlock (r : Rules) : Reader (List Statement) := do
  expect (.symbol ":")
  r.block

/-- The block behind a keyword, nothing if the keyword does not come next. -/
def blockOf (r : Rules) (word : String) : Reader (List Statement) := do
  if ← accept (.keyword word) then colonBlock r else return []

/-- The rest of a branch, behind its keyword. -/
def branchFrom (r : Rules) : Reader Statement := do
  let first ← namedExpression r
  let yes ← colonBlock r
  let others ← many r.bound do
    if ← accept (.keyword "elif") then
      let condition ← namedExpression r
      return some (condition, ← colonBlock r)
    else return none
  let no ← blockOf r "else"
  let rest := others.foldr (fun (condition, yes) no => [.branch condition yes no]) no
  return .branch first yes rest

/-- The rest of a loop over items, behind its keyword. -/
def eachFrom (r : Rules) (async : Bool) : Reader Statement := do
  let target ← targets r
  expect (.keyword "in")
  let items ← expressions r
  let body ← colonBlock r
  return .each async target items body (← blockOf r "else")

/-- A manager of a guarded block, and the target that it is assigned to. -/
def manager (r : Rules) : Reader (Expr × Option Expr) := do
  let value ← r.expression
  if ← accept (.keyword "as") then return (value, some (← target r)) else return (value, none)

/-- The managers of a guarded block, up to the colon. They may stand in parentheses. -/
def managers (r : Rules) : Reader (List (Expr × Option Expr)) :=
  orElse
    (do
      expect (.symbol "(")
      let (found, _) ← listed r.bound Token.beginsExpression (manager r)
      expect (.symbol ")")
      expect (.symbol ":")
      return found)
    (do
      let found ← separated r.bound (manager r)
      expect (.symbol ":")
      return found)

/-- The rest of a guarded block, behind its keyword. -/
def guardFrom (r : Rules) (async : Bool) : Reader Statement := do
  let managers ← managers r
  return .guard async managers (← r.block)

/-- A handler, and whether it handles the parts of a group. -/
def handler (r : Rules) : Reader (Handler Statement × Bool) := do
  let groups ← accept (.symbol "*")
  if !groups && (← nextIs (.symbol ":")) then return (⟨none, none, ← colonBlock r⟩, false)
  else
    let kind ← r.expression
    let name ← knownAs?
    return (⟨some kind, name, ← colonBlock r⟩, groups)

/-- The rest of an attempt, behind its keyword. All its handlers are of one sort, and it has
handlers or a block to clean up. -/
def attemptFrom (r : Rules) : Reader Statement := do
  let body ← colonBlock r
  let handlers ← many r.bound do
    if ← accept (.keyword "except") then return some (← handler r) else return none
  let groups := handlers.any (·.2)
  if groups && !handlers.all (·.2) then stopFor .form
  let otherwise ← if handlers.isEmpty then pure [] else blockOf r "else"
  let cleanup ← blockOf r "finally"
  if handlers.isEmpty && cleanup.isEmpty then stopFor .form
  return .attempt body groups (handlers.map (·.1)) otherwise cleanup

def selectionCase (r : Rules) : Reader (Case Statement) := do
  expect (.name "case")
  let pattern ← casePattern r
  let condition ← if ← accept (.keyword "if") then some <$> namedExpression r else pure none
  return { pattern, condition, body := ← colonBlock r }

/-- The beginning of a selection, up to the end of its line. -/
def selectionSubject (r : Rules) : Reader Expr := do
  expect (.name "match")
  let subject ← tupled r (namedExpression r)
  match subject with
  | .spread _ => stop
  | _ => pure ()
  expect (.symbol ":")
  expect .newline
  return subject

def selectionFrom (r : Rules) (subject : Expr) : Reader Statement := do
  if !(← accept .indent) then stopFor .indentation
  let first ← selectionCase r
  let rest ← many r.bound do
    if ← nextIs (.name "case") then return some (← selectionCase r) else return none
  expect .dedent
  return .select subject (first :: rest)

/-- The rest of a function, behind its keyword. -/
def functionFrom (r : Rules) (async : Bool) (decorators : List Expr) : Reader Statement := do
  let name ← anyName
  expect (.symbol "(")
  let parameters ← parameters r true (.symbol ")")
  expect (.symbol ")")
  let result ← if ← accept (.symbol "->") then some <$> r.expression else pure none
  return .function async name decorators parameters result (← colonBlock r)

/-- The arguments of a type, behind the opening parenthesis. -/
def baseArguments (r : Rules) : Reader (List (Argument Expr)) := do
  match ← arguments r with
  | [.plain (.comprehension .lazy ..)] => stopFor .form
  | found => return found

/-- The rest of a type, behind its keyword. -/
def typeFrom (r : Rules) (decorators : List Expr) : Reader Statement := do
  let name ← anyName
  let bases ← if ← accept (.symbol "(") then baseArguments r else pure []
  return .type name decorators bases (← colonBlock r)

/-- A function or a type with decorators in front. -/
def decorated (r : Rules) : Reader Statement := do
  let decorators ← many r.bound do
    if ← accept (.symbol "@") then
      let value ← namedExpression r
      expect .newline
      return some value
    else return none
  if ← accept (.keyword "class") then typeFrom r decorators
  else
    let async ← accept (.keyword "async")
    expect (.keyword "def")
    functionFrom r async decorators

/-- A statement with blocks, or a line of simple ones. -/
def statement (r : Rules) : Reader (List Statement) := do
  let one (found : Reader Statement) : Reader (List Statement) := do return [← found]
  match ← get with
  | .keyword "if" :: rest =>
    set rest
    one (branchFrom r)
  | .keyword "while" :: rest =>
    set rest
    one do
      let condition ← namedExpression r
      let body ← colonBlock r
      return .repeat condition body (← blockOf r "else")
  | .keyword "for" :: rest =>
    set rest
    one (eachFrom r false)
  | .keyword "with" :: rest =>
    set rest
    one (guardFrom r false)
  | .keyword "async" :: .keyword "for" :: rest =>
    set rest
    one (eachFrom r true)
  | .keyword "async" :: .keyword "with" :: rest =>
    set rest
    one (guardFrom r true)
  | .keyword "try" :: rest =>
    set rest
    one (attemptFrom r)
  | .symbol "@" :: _ | .keyword "def" :: _ | .keyword "class" :: _ | .keyword "async" :: _ =>
    one (decorated r)
  | .name "match" :: _ =>
    match ← orElse (some <$> selectionSubject r) (pure none) with
    | some subject => one (selectionFrom r subject)
    | none => simpleStatements r
  | _ => simpleStatements r

def statementsUntil (r : Rules) (last : Token) : Reader (List Statement) := do
  let found ← many r.bound do
    if ← nextIs last then return none else return some (← statement r)
  expect last
  return found.flatten

/-- A block, behind the colon. -/
def block (r : Rules) : Reader (List Statement) := do
  if ← accept .newline then
    if ← accept .indent then statementsUntil r .dedent else stopFor .indentation
  else simpleStatements r

/-! ## Scripts -/

def rules (bound : Nat) : Nat → Rules
  | 0 => .none bound
  | depth + 1 => {
    bound
    expression := fun tokens => expression (rules bound depth) tokens
    factor := fun tokens => signed (rules bound depth) tokens
    pattern := fun tokens => pattern (rules bound depth) tokens
    block := fun tokens => block (rules bound depth) tokens }

def Program.read? (text : String) : Except Flaw Program :=
  let bound := text.length + 2
  match statementsUntil (rules bound bound) .finish (tokens text) with
  | .ok (program, _) => .ok program
  | .error stop => .error stop.verdict

end ToolBindings.Script
