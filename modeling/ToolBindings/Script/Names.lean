import ToolBindings.Script.Kind
import ToolBindings.Script.Machine
/-!
# Names and what they stand for

A name that a function binds is its own: it has no value before one is given to it, even if
the name has one outside. Any other name is that of the innermost function around that binds
it, or of the script, or of the language. A type under definition is no such function: what
stands in it does not see its names, and it sees those of the script until it binds them.
-/
namespace ToolBindings.Script
open Eval

/-- The names of a frame that are its own, and those that have a value. -/
def frameAt (place : Nat) : Eval (List String × Names) := do
  match ← objectAt place with
  | .frame own values => return (own, values)
  | _ => return ([], [])

def setInFrame (place : Nat) (id : String) (value : Datum) : Eval Unit := do
  let (own, values) ← frameAt place
  replace place (.frame own (values.put id value))

/-- What a name of the language stands for. -/
def nameOfLanguage? (id : String) : Option Datum :=
  if id = "NotImplemented" then some (.atom .notImplemented 0)
  else if id = "Ellipsis" then some (.atom .ellipsis 0)
  else if id = "__debug__" then some (.bool true)
  else if ["EnvironmentError", "IOError"].contains id then some (.type "OSError")
  else if plainFunctions.contains id then some (.primitive id)
  else if plainTypes.contains id || errorTypes.contains id && !loadedTypes.contains id then
    some (.type id)
  else if ["__name__", "__doc__", "__package__", "__loader__", "__spec__"].contains id then
    some .unknown
  else none

def scriptName (id : String) : Eval Datum := do
  match (← frameAt 0).2.lookup id <|> nameOfLanguage? id with
  | some value => return value
  | none => fail "NameError"

/-- The value of a name that is not one of the innermost frame. -/
def outerName (id : String) : List Nat → Eval Datum
  | [] => scriptName id
  | place :: rest => do
    let (own, values) ← frameAt place
    if own.contains id then
      match values.lookup id with
      | some value => return value
      | none => fail "NameError"
    else outerName id rest

def readName (scene : Scene) (id : String) : Eval Datum := do
  if scene.globals.contains id then scriptName id
  else
    let (own, values) ← frameAt scene.frame
    match values.lookup id with
    | some value => return value
    | none =>
      if !own.contains id then outerName id scene.outer
      else if scene.shared then fail "UnboundLocalError"
      else scriptName id

/-- The frame to which a name belongs that is bound in a scene. -/
def frameOf (scene : Scene) (id : String) : Eval Nat := do
  if scene.globals.contains id then return 0
  if (← frameAt scene.frame).1.contains id then return scene.frame
  for place in scene.outer do
    if (← frameAt place).1.contains id then return place
  return if scene.shared then 0 else scene.frame

def bindName (scene : Scene) (id : String) (value : Datum) : Eval Unit := do
  setInFrame (← frameOf scene id) id value

def deleteName (scene : Scene) (id : String) : Eval Unit := do
  let place ← frameOf scene id
  let (own, values) ← frameAt place
  if (values.lookup id).isSome then replace place (.frame own (values.remove id))
  else fail (if scene.shared && place = scene.frame then "UnboundLocalError" else "NameError")

end ToolBindings.Script
