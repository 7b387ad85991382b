import ToolBindings.Script.Reader.Expression
/-!
# Reading patterns

The patterns of a selection between cases. A name alone keeps what it matches, and the name
`_` matches without keeping; a name with a dot in it is a value to compare with.
-/
namespace ToolBindings.Script
open Reader

/-- The name that keeps what is matched; none for the name that does not keep. -/
def kept (id : String) : Option String := if id = "_" then none else some id

def keptName : Reader String := do
  match kept (← anyName) with
  | some id => return id
  | none => stopFor .form

/-- A path of names with dots between them. -/
def dotted (r : Rules) : Reader (String × List String) := do
  let first ← anyName
  let rest ← many r.bound do
    if ← accept (.symbol ".") then return some (← anyName) else return none
  return (first, rest)

/-- The numeral of a pattern, perhaps with a minus sign, and whether it is imaginary. -/
def signedNumber : Reader (Expr × Bool) := do
  let negative ← accept (.symbol "-")
  match ← peek with
  | .number value =>
    advance
    let number := Expr.constant (.number value)
    return (if negative then .unary .minus number else number, value matches .imaginary ..)
  | _ => stop

/-- A number: a numeral, or a sum or difference of a real and an imaginary one. -/
def patternNumber : Reader Expr := do
  let (real, isImaginary) ← signedNumber
  match ← peek with
  | .symbol sign =>
    if sign = "+" ∨ sign = "-" then
      advance
      match ← peek with
      | .number value =>
        advance
        if isImaginary || !(value matches .imaginary ..) then stopFor .form
        return .binary (if sign = "+" then .add else .sub) real (.constant (.number value))
      | _ => stop
    else return real
  | _ => return real

/-- Whether an item of a sequence pattern may begin with a token. -/
def Token.beginsPattern : Token → Bool
  | name _ | number _ | text .. => true
  | keyword word => ["None", "True", "False"].contains word
  | symbol sign => ["(", "[", "\x7b", "-", "*"].contains sign
  | _ => false

def patternItem (r : Rules) : Reader Pattern := do
  if ← accept (.symbol "*") then return .rest (kept (← anyName)) else r.pattern

/-- The items of a sequence pattern, and whether it is more than an item in parentheses. -/
def patternItems (r : Rules) : Reader (List Pattern × Bool) := do
  let (items, trailing) ← listed r.bound Token.beginsPattern (patternItem r)
  let isSequence := match items with
    | [.rest _] => trailing
    | [_] => trailing
    | _ => true
  return (items, isSequence)

/-- A value written down in a pattern, if there is one. -/
def literalPattern (r : Rules) : Reader (Option Pattern) := do
  match ← peek with
  | .keyword "None" =>
    advance
    return some (.constant .none)
  | .keyword "True" =>
    advance
    return some (.constant (.bool true))
  | .keyword "False" =>
    advance
    return some (.constant (.bool false))
  | .number _ | .symbol "-" => return some (.value (← patternNumber))
  | .text .. =>
    match ← texts r with
    | .formatted _ => stopFor .form
    | value => return some (.value value)
  | _ => return none

/-- The names of a dotted path as an expression. -/
def memberPath (path : String × List String) : Expr := path.2.foldl .member (.name path.1)

/-- An entry of a mapping pattern, or the name that keeps the entries that are left. -/
def patternEntry (r : Rules) : Reader ((Expr × Pattern) ⊕ String) := do
  if ← accept (.symbol "**") then return .inr (← keptName)
  else
    let key ← match ← literalPattern r with
      | some (.value value) => pure value
      | some (.constant value) => pure (.constant value)
      | some _ => stop
      | none =>
        let path ← dotted r
        if path.2.isEmpty then stop
        pure (memberPath path)
    expect (.symbol ":")
    return .inl (key, ← r.pattern)

/-- A mapping pattern, behind the opening brace. -/
def mappingPattern (r : Rules) : Reader Pattern := do
  let (entries, rest, _) ← iterate r.bound (fun (entries, rest, more) => do
    if !more || (← nextIs (.symbol "\x7d")) then return none
    else if rest.isSome then stop
    else
      match ← patternEntry r with
      | .inl entry => return some (entry :: entries, none, ← accept (.symbol ","))
      | .inr name => return some (entries, some name, ← accept (.symbol ",")))
    (([] : List (Expr × Pattern)), (none : Option String), true)
  expect (.symbol "\x7d")
  return .mapping entries.reverse rest

/-- The patterns for the parts of an object, behind the opening parenthesis. -/
def objectPattern (r : Rules) (type : Expr) : Reader Pattern := do
  let (positional, named, _) ← iterate r.bound (fun (positional, named, more) => do
    if !more || (← nextIs (.symbol ")")) then return none
    else
      match ← get with
      | .name id :: .symbol "=" :: rest =>
        set rest
        let part ← r.pattern
        return some (positional, (id, part) :: named, ← accept (.symbol ","))
      | _ =>
        if !named.isEmpty then stop
        let part ← r.pattern
        return some (part :: positional, named, ← accept (.symbol ",")))
    (([] : List Pattern), ([] : List (String × Pattern)), true)
  expect (.symbol ")")
  return .object type positional.reverse named.reverse

def closedPattern (r : Rules) : Reader Pattern := do
  if let some pattern ← literalPattern r then return pattern
  match ← peek with
  | .name _ =>
    let path ← dotted r
    if ← accept (.symbol "(") then objectPattern r (memberPath path)
    else if path.2.isEmpty then return .capture (kept path.1)
    else return .value (memberPath path)
  | .symbol "(" =>
    advance
    if ← accept (.symbol ")") then return .sequence []
    let (items, isSequence) ← patternItems r
    expect (.symbol ")")
    match items, isSequence with
    | [.rest _], false => stopFor .form
    | [pattern], false => return pattern
    | items, _ => return .sequence items
  | .symbol "[" =>
    advance
    if ← accept (.symbol "]") then return .sequence []
    let (items, _) ← patternItems r
    expect (.symbol "]")
    return .sequence items
  | .symbol "\x7b" =>
    advance
    mappingPattern r
  | _ => stop

/-- A pattern: alternatives, and perhaps a name that keeps what matches. -/
def pattern (r : Rules) : Reader Pattern := do
  let first ← closedPattern r
  let rest ← many r.bound do
    if ← accept (.symbol "|") then return some (← closedPattern r) else return none
  let found := if rest.isEmpty then first else .either (first :: rest)
  if ← accept (.keyword "as") then return .keep found (← keptName) else return found

/-- The pattern of a case, which may be a sequence without brackets. -/
def casePattern (r : Rules) : Reader Pattern := do
  match ← patternItems r with
  | ([.rest _], false) => stopFor .form
  | ([pattern], false) => return pattern
  | (items, _) => return .sequence items

end ToolBindings.Script
