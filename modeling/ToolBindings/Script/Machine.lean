import ToolBindings.Script.Datum
/-!
# The state of a script that runs

`Eval` is a step of a script: it changes the machine and ends with a result, with an error,
or not at all. Errors are values; `fail` raises one of a type that is known by name.

Functions of the language that go through values of any depth, or that call functions of
the script, take a `Runner`, which does these things with one unit less of a bound.
-/
namespace ToolBindings.Script

/-- The state of a script that runs. -/
structure Machine where
  store : Array Object := #[.frame [] []]
  /-- The next mark of a value. -/
  marks : Nat := 1
  /-- How many calls have not ended yet. -/
  calls : Nat := 0
  /-- The name of the library that gives tools their support. -/
  support : String := ""
  /-- The libraries that are loaded, with their places. -/
  libraries : List (String × Nat) := []
  /-- The errors that are being handled, the last one first. -/
  handled : List Datum := []
  /-- What the function has yielded that is gone through, the last value first. -/
  yielded : List Datum := []

/-- Why a step has no result. -/
inductive Halt where
  | error (error : Datum)
  /-- It takes longer than the bound. -/
  | exhausted

abbrev Eval := ExceptT Halt (StateM Machine)

/-- The scope in which something is evaluated. -/
structure Scene where
  /-- Whether functions inside see the names of the frame. -/
  shared : Bool := false
  frame : Nat := 0
  /-- The names that belong to the script though they are bound here. -/
  globals : List String := []
  /-- The frames of the functions around, the innermost first. -/
  outer : List Nat := []

inductive Ending where
  | next
  | leftLoop
  | nextRound
  | gave (value : Datum)

/-- What functions of the language need. -/
structure Runner where
  value : Scene → Expr → Eval Datum
  block : Scene → List Statement → Eval Ending
  call : Datum → Arguments → Eval Datum
  holds : Comparison → Datum → Datum → Eval Bool
  /-- How a value is written in a script, or else how it is printed. -/
  written : Bool → Datum → Eval String

namespace Eval

def put (object : Object) : Eval Datum := do
  let machine ← get
  set { machine with store := machine.store.push object }
  return .object machine.store.size

def objectAt (place : Nat) : Eval Object := do
  return ((← get).store[place]?).getD (.list [])

def object? : Datum → Eval (Option Object)
  | .object place => some <$> objectAt place
  | _ => return none

def replace (place : Nat) (object : Object) : Eval Unit :=
  modify fun machine => { machine with store := machine.store.setIfInBounds place object }

/-- A mark that no value has yet. -/
def mark : Eval Nat := modifyGet fun machine =>
  (machine.marks, { machine with marks := machine.marks + 1 })

def atom (value : Atom) : Eval Datum := do return .atom value (← mark)

def int (value : Int) : Eval Datum := atom (.int value)
def text (value : String) : Eval Datum := atom (.text value)
def tuple (items : List Datum) : Eval Datum := do return .tuple items (← mark)
def list (items : List Datum) : Eval Datum := put (.list items)
def iterator (items : List Datum) : Eval Datum := put (.iterator items none)

def newError (type : Datum) (arguments : List Datum) : Eval Datum := do
  put (.record type [("args", ← tuple arguments)])

def raise {α : Type} (error : Datum) : Eval α := throwThe Halt (.error error)

/-- Raises an error of a type that is known by name. -/
def fail {α : Type} (type : String) (arguments : List Datum := []) : Eval α := do
  raise (← newError (.type type) arguments)

/-- Catches an error that a step raises. -/
def caught {α : Type} (step : Eval α) : Eval (Except Datum α) :=
  tryCatchThe Halt (Except.ok <$> step) fun
    | .error error => return .error error
    | .exhausted => throwThe Halt .exhausted

/-- How many calls may be inside one another. -/
def maxCalls : Nat := 990

/-- Runs a step inside one more call. -/
def nested {α : Type} (step : Eval α) : Eval α := do
  if (← get).calls ≥ maxCalls then fail "RecursionError"
  modify fun machine => { machine with calls := machine.calls + 1 }
  let leave : Eval Unit := modify fun machine => { machine with calls := machine.calls - 1 }
  let result ← tryCatchThe Halt step fun halt => do leave; throwThe Halt halt
  leave
  return result

end Eval

end ToolBindings.Script
