import ToolBindings.Script.Operation
/-!
# Calls

Arguments are matched with parameters by place and by name; `bindArguments` fails if one is
missing, or there is none for it, or it is given twice. A function that yields, or that
waits, is not run when it is called: the call gives what can be gone through later.
-/
namespace ToolBindings.Script
open Eval

/-! ## Arguments -/

/-- The arguments of a call without names, if their number is within bounds. -/
def exactly (arguments : Arguments) (least most : Nat) : Eval (List Datum) := do
  let given := arguments.positional
  if arguments.named.isEmpty && least ≤ given.length && given.length ≤ most then return given
  fail "TypeError"

def only (arguments : Arguments) : Eval Datum := do
  match ← exactly arguments 1 1 with
  | [value] => return value
  | _ => fail "TypeError"

def checkNames (arguments : Arguments) (known : List String) : Eval Unit := do
  if !arguments.named.all fun (name, _) => known.contains name then fail "TypeError"

/-- Matches the arguments that are given by place. The answer is what is left over. -/
def bindPositional : List String → List Datum → Names × List Datum
  | name :: names, value :: values =>
    let (bound, rest) := bindPositional names values
    ((name, value) :: bound, rest)
  | _, values => ([], values)

def bindArguments (function : Function) (arguments : Arguments) : Eval Names := do
  let p := function.parameters
  let positional := p.positional.map (·.name)
  let byName := positional.drop p.positionalOnly ++ p.named.map (·.name)
  let (bound, left) := bindPositional positional arguments.positional
  if p.rest.isNone && !left.isEmpty then fail "TypeError"
  let (given, others) := arguments.named.partition fun (name, _) => byName.contains name
  if given.any fun (name, _) => (bound.lookup name).isSome then fail "TypeError"
  if p.namedRest.isNone && !others.isEmpty then fail "TypeError"
  let bound := bound ++ given
  let missing := (positional ++ p.named.map (·.name)).filter fun name =>
    (bound.lookup name).isNone
  let completed ← missing.mapM fun name => do
    match function.defaults.lookup name with
    | some value => return (name, value)
    | none => fail "TypeError"
  let rest ← p.rest.toList.mapM fun q => return (q.name, ← tuple left)
  let namedRest ← p.namedRest.toList.mapM fun q => do
    let entries ← others.mapM fun (name, value) => return (← text name, value)
    return (q.name, ← newDict entries)
  return bound ++ completed ++ rest ++ namedRest

/-! ## Functions and types -/

/-- Calls a function that a script defines. -/
def callFunction (r : Runner) (function : Function) (arguments : Arguments) : Eval Datum := do
  let bound ← bindArguments function arguments
  match ← put (.frame function.own bound) with
  | .object frame =>
    if function.yields || function.async then put (.generator function frame)
    else
      match ← nested (r.block (function.scene frame) function.body) with
      | .gave value => return value
      | _ => return .none
  | _ => return .none

/-- The types of errors of the system that have a number. -/
def systemErrors : List (Int × String) := [
  (1, "PermissionError"), (2, "FileNotFoundError"), (3, "ProcessLookupError"),
  (4, "InterruptedError"), (10, "ChildProcessError"), (11, "BlockingIOError"),
  (13, "PermissionError"), (17, "FileExistsError"), (20, "NotADirectoryError"),
  (21, "IsADirectoryError"), (32, "BrokenPipeError"), (103, "ConnectionAbortedError"),
  (104, "ConnectionResetError"), (110, "TimeoutError"), (111, "ConnectionRefusedError")]

/-- The type of an error that is made of arguments. An error of the system is of the type that
its number has. -/
def errorTypeFor (type : String) (arguments : List Datum) : String :=
  match type, arguments with
  | "OSError", number :: _ :: _ => (number.int?.bind fun n => systemErrors.lookup n).getD type
  | type, _ => type

def toolFields : List String := ["name", "description", "input_schema", "input_type", "fn"]

/-- Makes a tool, all of whose members must be given. -/
def newTool (type : Datum) (arguments : Arguments) : Eval Datum := do
  let (bound, left) := bindPositional toolFields arguments.positional
  checkNames arguments toolFields
  let given := bound ++ arguments.named
  if !left.isEmpty || given.length ≠ toolFields.length ||
      !toolFields.all (fun name => (given.lookup name).isSome) then fail "TypeError"
  put (.record type given)

/-- Makes something of a type that a script defines. -/
def newRecord (r : Runner) (type : Datum) (arguments : Arguments) : Eval Datum := do
  let types ← lineageOfType type
  let base := languageType types
  let opener ← definedIn? "__init__" types
  let value ← match ← definedIn? "__new__" types with
    | some function => r.call function { arguments with positional := type :: arguments.positional }
    | none =>
      if base = "Tool" && opener.isNone then newTool type arguments
      else if ← isErrorType type then
        if opener.isNone && !arguments.named.isEmpty then fail "TypeError"
        newError type arguments.positional
      else
        let none' := arguments.positional.isEmpty && arguments.named.isEmpty
        if base = "object" && opener.isNone && !none' then fail "TypeError"
        put (.record type [])
  match opener with
  | some function =>
    if ← isOfType value type then
      let result ← r.call (.bound value function) arguments
      if !result.isNone then fail "TypeError"
    return value
  | none => return value

/-- Whether a value can be called. -/
def isCallable (value : Datum) : Eval Bool := do
  match value, ← object? value with
  | .primitive _, _ | .type _, _ | .method .., _ | .bound .., _ | .unknown, _ => return true
  | _, some (.function ..) | _, some (.type ..) | _, some (.applied ..) => return true
  | _, some (.wrapped .static _) => return true
  | _, some (.record type _) =>
    let types ← lineageOfType type
    return types.any (Datum.isSame (.type "Tool")) || (← definedIn? "__call__" types).isSome
  | _, _ => return false

end ToolBindings.Script
