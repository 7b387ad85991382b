import ToolBindings.Script.Reader.Text
/-!
# Reading expressions

From the inside out: atoms, what may stand behind them (members, calls, items), operators
from the strongest to the weakest, and the choice between two values. `Expr.isTarget` says
which expressions may be assigned to; the reader of targets reads expressions and refuses
the others.
-/
namespace ToolBindings.Script
open Reader

def Token.beginsExpression : Token → Bool
  | name _ | number _ | text .. => true
  | keyword word => ["None", "True", "False", "not", "lambda", "await"].contains word
  | symbol sign => ["(", "[", "\x7b", "+", "-", "~", "..."].contains sign
  | _ => false

/-- Whether an item of a list may begin with a token. -/
def Token.beginsItem (token : Token) : Bool := token == .symbol "*" || token.beginsExpression

/-! ## Operators -/

/-- Operands with operators of the same strength between them, grouped from the left. -/
def chain (bound : Nat) (ops : List (String × BinaryOp)) (operand : Reader Expr) : Reader Expr := do
  iterate bound (fun left => do
    match ← peek with
    | .symbol sign =>
      match ops.lookup sign with
      | some op =>
        advance
        return some (.binary op left (← operand))
      | none => return none
    | _ => return none) (← operand)

/-- Operators between two operands, the strongest first. -/
def operators : List (List (String × BinaryOp)) := [
  [("*", .mul), ("/", .div), ("//", .floorDiv), ("%", .mod), ("@", .matMul)],
  [("+", .add), ("-", .sub)],
  [("<<", .shiftLeft), (">>", .shiftRight)],
  [("&", .bitAnd)], [("^", .bitXor)], [("|", .bitOr)]]

def operand (r : Rules) : Reader Expr :=
  operators.foldl (fun inner ops => chain r.bound ops inner) r.factor

/-- The comparison that comes next, if there is one. -/
def comparison : Reader (Option Comparison) := do
  match ← peek with
  | .symbol sign =>
    match [("==", Comparison.eq), ("!=", .ne), ("<", .lt), ("<=", .le), (">", .gt),
        (">=", .ge)].lookup sign with
    | some found =>
      advance
      return some found
    | none => return none
  | .keyword "in" =>
    advance
    return some .within
  | .keyword "is" =>
    advance
    if ← accept (.keyword "not") then return some .notSame else return some .same
  | .keyword "not" =>
    advance
    expect (.keyword "in")
    return some .notWithin
  | _ => return none

def compared (r : Rules) : Reader Expr := do
  let first ← operand r
  let rest ← many r.bound do
    match ← comparison with
    | some found => return some (found, ← operand r)
    | none => return none
  return if rest.isEmpty then first else .compare first rest

def inversion (r : Rules) : Reader Expr := do
  let signs ← many r.bound do
    if ← accept (.keyword "not") then return some () else return none
  return signs.foldl (fun inner _ => .unary .not inner) (← compared r)

def joinedBy (bound : Nat) (word : String) (join : List Expr → Expr) (part : Reader Expr) :
    Reader Expr := do
  let first ← part
  let rest ← many bound do
    if ← accept (.keyword word) then return some (← part) else return none
  return if rest.isEmpty then first else join (first :: rest)

def disjunction (r : Rules) : Reader Expr :=
  joinedBy r.bound "or" .disjunction (joinedBy r.bound "and" .conjunction (inversion r))

/-- Whether a name to which a value is assigned comes next. -/
def beginsAssignment : Reader Bool := do
  match ← get with
  | .name _ :: .symbol ":=" :: _ => return true
  | _ => return false

/-- An expression, or a name with a value assigned to it. -/
def namedExpression (r : Rules) : Reader Expr := do
  match ← get with
  | .name id :: .symbol ":=" :: rest =>
    set rest
    return .assign id (← r.expression)
  | _ =>
    let value ← r.expression
    if ← nextIs (.symbol ":=") then stop
    return value

/-- An item of a list: an expression, or a sequence to be put in. -/
def listItem (r : Rules) (plain : Reader Expr) : Reader Expr := do
  if ← accept (.symbol "*") then return .spread (← operand r) else plain

/-- Items with commas between them. One item alone is itself, with a comma it is a tuple. -/
def tupled (r : Rules) (plain : Reader Expr) : Reader Expr := do
  match ← listed r.bound Token.beginsItem (listItem r plain) with
  | ([item], false) => return item
  | (items, _) => return .tuple items

def expressions (r : Rules) : Reader Expr := tupled r r.expression

def yielded (r : Rules) : Reader Expr := do
  expect (.keyword "yield")
  if ← accept (.keyword "from") then return .yieldAll (← r.expression)
  else if (← peek).beginsItem then return .yield (some (← expressions r))
  else return .yield none

def assigned (r : Rules) : Reader Expr := do
  if ← nextIs (.keyword "yield") then yielded r else expressions r

/-! ## Targets -/

mutual

def Expr.isTarget : Expr → Bool
  | .name _ | .member .. | .item .. => true
  | .tuple items | .list items => areTargets items
  | _ => false

/-- Whether all items can be assigned to, where one may take a sequence of values. -/
def areTargets : List Expr → Bool
  | [] => true
  | .spread inner :: rest => inner.isTarget && areTargets rest
  | item :: rest => item.isTarget && areTargets rest

end

mutual

def Expr.isDeletable : Expr → Bool
  | .name _ | .member .. | .item .. => true
  | .tuple items | .list items => areDeletable items
  | _ => false

def areDeletable : List Expr → Bool
  | [] => true
  | item :: rest => item.isDeletable && areDeletable rest

end

/-- One target, which may take a sequence of values. -/
def target (r : Rules) : Reader Expr := do
  let read ← listItem r (operand r)
  if areTargets [read] then return read else stopFor .form

def targets (r : Rules) : Reader Expr := do
  match ← listed r.bound Token.beginsItem (target r) with
  | ([item], false) => return item
  | (items, _) => return .tuple items

/-! ## Comprehensions and brackets -/

/-- Whether a loop of a comprehension comes next. -/
def beginsClause (token : Token) : Bool := token == .keyword "for" || token == .keyword "async"

def clauses (r : Rules) : Reader (List (Clause Expr)) :=
  many r.bound do
    if beginsClause (← peek) then
      let async ← accept (.keyword "async")
      expect (.keyword "for")
      let target ← targets r
      expect (.keyword "in")
      let items ← disjunction r
      let conditions ← many r.bound do
        if ← accept (.keyword "if") then return some (← disjunction r) else return none
      return some { async, target, items, conditions }
    else return none

/-- The comprehension over an element, which is no sequence to be put in. -/
def comprehended (r : Rules) (kind : Collection) (element : Expr) (value : Option Expr) :
    Reader Expr := do
  match element with
  | .spread _ => stop
  | _ => return .comprehension kind element value (← clauses r)

/-- Items up to a closing bracket, given the first one and whether there is only that one so
far. -/
def itemsUntil (r : Rules) (close : String) (first : Expr) : Reader (List Expr) := do
  let mut items := [first]
  if ← accept (.symbol ",") then
    if (← peek).beginsItem then
      items := first :: (← listed r.bound Token.beginsItem (listItem r (namedExpression r))).1
  expect (.symbol close)
  return items

/-- What is in parentheses, behind the opening one. -/
def parenthesized (r : Rules) : Reader Expr := do
  if ← accept (.symbol ")") then return .tuple []
  else if ← nextIs (.keyword "yield") then
    let value ← yielded r
    expect (.symbol ")")
    return value
  else
    let first ← listItem r (namedExpression r)
    if beginsClause (← peek) then
      let value ← comprehended r .lazy first none
      expect (.symbol ")")
      return value
    else if ← nextIs (.symbol ",") then return .tuple (← itemsUntil r ")" first)
    else
      match first with
      | .spread _ => stop
      | value =>
        expect (.symbol ")")
        return value

/-- What is in square brackets, behind the opening one. -/
def bracketed (r : Rules) : Reader Expr := do
  if ← accept (.symbol "]") then return .list []
  else
    let first ← listItem r (namedExpression r)
    if beginsClause (← peek) then
      let value ← comprehended r .list first none
      expect (.symbol "]")
      return value
    else return .list (← itemsUntil r "]" first)

def dictEntry (r : Rules) : Reader (Option Expr × Expr) := do
  if ← accept (.symbol "**") then return (none, ← operand r)
  else
    let key ← r.expression
    expect (.symbol ":")
    return (some key, ← r.expression)

/-- What is in braces, behind the opening one. -/
def braced (r : Rules) : Reader Expr := do
  let close := "\x7d"
  let dictFrom (first : Option Expr × Expr) : Reader Expr := do
    let mut entries := [first]
    if ← accept (.symbol ",") then
      let begins := fun (token : Token) => token == .symbol "**" || token.beginsExpression
      if begins (← peek) then entries := first :: (← listed r.bound begins (dictEntry r)).1
    expect (.symbol close)
    return .dict entries
  if ← accept (.symbol close) then return .dict []
  else if ← nextIs (.symbol "**") then dictFrom (← dictEntry r)
  else
    let isItem := (← nextIs (.symbol "*")) || (← beginsAssignment)
    let first ← listItem r (namedExpression r)
    if !isItem && (← accept (.symbol ":")) then
      let value ← r.expression
      if beginsClause (← peek) then
        let value ← comprehended r .dict first (some value)
        expect (.symbol close)
        return value
      else dictFrom (some first, value)
    else if beginsClause (← peek) then
      let value ← comprehended r .set first none
      expect (.symbol close)
      return value
    else return .set (← itemsUntil r close first)

/-! ## Atoms and what stands behind them -/

/-- A name, a value that is written down, or something in brackets. -/
def atomic (r : Rules) : Reader Expr := do
  match ← peek with
  | .name id =>
    advance
    return .name id
  | .keyword "None" =>
    advance
    return .constant .none
  | .keyword "True" =>
    advance
    return .constant (.bool true)
  | .keyword "False" =>
    advance
    return .constant (.bool false)
  | .number value =>
    advance
    return .constant (.number value)
  | .text .. => texts r
  | .symbol "..." =>
    advance
    return .constant .ellipsis
  | .symbol "(" =>
    advance
    parenthesized r
  | .symbol "[" =>
    advance
    bracketed r
  | .symbol "\x7b" =>
    advance
    braced r
  | _ => stop

/-- A part of an index: a value, or bounds with a colon between them. -/
def indexPart (r : Rules) : Reader Expr := do
  let bound : Reader (Option Expr) := do
    if (← peek).beginsExpression then return some (← r.expression) else return none
  if ← accept (.symbol "*") then return .spread (← r.expression)
  if ← beginsAssignment then namedExpression r
  else
    let first ← bound
    match first, ← accept (.symbol ":") with
    | first, true =>
      let last ← bound
      if ← accept (.symbol ":") then return .slice first last (← bound)
      else return .slice first last none
    | some value, false =>
      if ← nextIs (.symbol ":=") then stop
      return value
    | none, false => stop

/-- An index, behind the opening bracket. -/
def index (r : Rules) : Reader Expr := do
  let begins := fun (token : Token) => token == .symbol ":" || token.beginsItem
  let (parts, trailing) ← listed r.bound begins (indexPart r)
  expect (.symbol "]")
  match parts, trailing with
  | [.spread items], _ => return .tuple [.spread items]
  | [part], false => return part
  | parts, _ => return .tuple parts

/-- Which arguments may still come. -/
inductive ArgumentStage where
  | any | afterNamed | afterSpreadNamed
deriving DecidableEq

/-- An argument of a call, given which may still come, and which may come behind it. -/
def argument (r : Rules) (stage : ArgumentStage) (alone : Bool) :
    Reader (Argument Expr × ArgumentStage) := do
  match ← get with
  | .symbol "*" :: rest =>
    if stage = .afterSpreadNamed then stop
    set rest
    return (.spread (← r.expression), stage)
  | .symbol "**" :: rest =>
    set rest
    return (.spreadNamed (← r.expression), .afterSpreadNamed)
  | .name id :: .symbol "=" :: rest =>
    set rest
    let value ← r.expression
    return (.named id value, if stage = .any then .afterNamed else stage)
  | _ =>
    if stage ≠ .any then stop
    let value ← namedExpression r
    if beginsClause (← peek) then
      let value ← comprehended r .lazy value none
      if alone && (← nextIs (.symbol ")")) then return (.plain value, stage) else stop
    else return (.plain value, stage)

/-- The arguments of a call, behind the opening parenthesis. -/
def arguments (r : Rules) : Reader (List (Argument Expr)) := do
  let (found, _, _) ← iterate r.bound (fun (found, stage, more) => do
    if !more || (← nextIs (.symbol ")")) then return none
    else
      let (next, stage) ← argument r stage found.isEmpty
      return some (next :: found, stage, ← accept (.symbol ","))) ([], .any, true)
  expect (.symbol ")")
  return found.reverse

/-- An atom with members, calls and items behind it. -/
def primary (r : Rules) : Reader Expr := do
  iterate r.bound (fun object => do
    if ← accept (.symbol ".") then return some (.member object (← anyName))
    else if ← accept (.symbol "(") then return some (.call object (← arguments r))
    else if ← accept (.symbol "[") then return some (.item object (← index r))
    else return none) (← atomic r)

/-- A primary, perhaps raised to a power, with signs in front. -/
def signed (r : Rules) : Reader Expr := do
  match ← peek with
  | .symbol "+" =>
    advance
    return .unary .plus (← r.factor)
  | .symbol "-" =>
    advance
    return .unary .minus (← r.factor)
  | .symbol "~" =>
    advance
    return .unary .invert (← r.factor)
  | _ =>
    let base ← if ← accept (.keyword "await") then Expr.await <$> primary r else primary r
    if ← accept (.symbol "**") then return .binary .pow base (← r.factor) else return base

/-! ## Parameters -/

/-- Parameters that have been read so far. -/
structure ParametersSoFar where
  positional : List (Parameter Expr) := []
  positionalOnly : Option Nat := none
  /-- What stands behind a star; the star may stand alone. -/
  star : Option (Option (Parameter Expr)) := none
  named : List (Parameter Expr) := []
  namedRest : Option (Parameter Expr) := none

def ParametersSoFar.toParameters (p : ParametersSoFar) : Parameters Expr := {
  positional := p.positional, positionalOnly := p.positionalOnly.getD 0
  rest := p.star.bind id, named := p.named, namedRest := p.namedRest }

/-- What stands behind a colon in a parameter. -/
def typeNote (annotated : Bool) (value : Reader Expr) : Reader (Option Expr) := do
  if annotated then
    if ← accept (.symbol ":") then return some (← value)
  return none

/-- A parameter, added to those before it. -/
def parameter (r : Rules) (annotated : Bool) (p : ParametersSoFar) : Reader ParametersSoFar := do
  if p.namedRest.isSome then stop
  match ← get with
  | .symbol "/" :: rest =>
    if p.positional.isEmpty || p.positionalOnly.isSome || p.star.isSome then stop
    set rest
    return { p with positionalOnly := some p.positional.length }
  | .symbol "*" :: .symbol "," :: .name id :: rest =>
    if p.star.isSome then stop
    set (.symbol "," :: .name id :: rest)
    return { p with star := some none }
  | .symbol "*" :: .name id :: rest =>
    if p.star.isSome then stop
    set rest
    let kind ← typeNote annotated (listItem r r.expression)
    return { p with star := some (some { name := id, note := kind }) }
  | .symbol "**" :: .name id :: rest =>
    set rest
    let kind ← typeNote annotated r.expression
    return { p with namedRest := some { name := id, note := kind } }
  | .name id :: rest =>
    set rest
    let kind ← typeNote annotated r.expression
    let default ← if ← accept (.symbol "=") then some <$> r.expression else pure none
    let found : Parameter Expr := { name := id, note := kind, default }
    if p.star.isSome then return { p with named := p.named ++ [found] }
    else if default.isNone && p.positional.any (·.default.isSome) then stopFor .form
    else return { p with positional := p.positional ++ [found] }
  | _ => stop

/-- Parameters up to a closing token, which is left. -/
def parameters (r : Rules) (annotated : Bool) (close : Token) : Reader (Parameters Expr) := do
  let (p, _) ← iterate r.bound (fun (p, more) => do
    if !more || (← nextIs close) then return none
    else
      let p ← parameter r annotated p
      return some (p, ← accept (.symbol ","))) (({} : ParametersSoFar), true)
  return p.toParameters

def expression (r : Rules) : Reader Expr := do
  if ← accept (.keyword "lambda") then
    let parameters ← parameters r false (.symbol ":")
    expect (.symbol ":")
    return .lambda parameters (← r.expression)
  else
    let yes ← disjunction r
    if ← accept (.keyword "if") then
      let condition ← disjunction r
      expect (.keyword "else")
      return .choice condition yes (← r.expression)
    else return yes

end ToolBindings.Script
