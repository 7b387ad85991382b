import ToolBindings.Bindings.Layout
import ToolBindings.Literal.Value
import ToolBindings.Script.Running
/-!
# Using a module

A module is used by running its text as a script, constructing its tools for an implementation,
and then calling some of them. The implementation, and what the tools are called with, are any
values of scripts.

* `Script.ofValue`, `Script.newThing`, `Script.newMessage`: values to use a module with.
* `Script.toolView`: what is seen of a tool.
* `Module.use`: the tools, and for each call whether the input is given back.
-/
namespace ToolBindings

/-- What is seen of a tool. -/
structure ToolView where
  name : Value
  description : Value
  inputType : Value
  inputSchema : Literal

/-- An error with which using a module ends. Only errors that are this library's own have a
message. -/
structure UseError where
  type : String
  message : Option String := none

/-- What comes of using a module. -/
structure ModuleUse where
  tools : Except UseError (List ToolView)
  calls : List (Except UseError Bool)

namespace Script
open Eval

def Machine.forModule (support : String) : Machine where
  store := #[.frame [] [("__name__", .unknown), ("__builtins__", .unknown)]]
  support

/-! ## Values from outside -/

/-- A thing with members, of a type of its own. -/
def newThing (typeName : String) (members : Names) : Eval Datum := do
  put (.record (← put (.type typeName [.type "object"] [])) members)

/-- A message with a number of fields that are set, which can only be listed. -/
def newMessage (setFields : Nat) : Eval Datum := do
  let fields ← list (List.replicate setFields .none)
  newThing "Message" [("ListFields", ← put (.applied (.type "list") ⟨[fields], []⟩))]

mutual

def ofValue : Value → Eval Datum
  | .null => return .none
  | .bool value => return .bool value
  | .int value => int value
  | .text value => text value
  | .other (.float numeral) => Eval.atom (.float ((floatOfText? numeral).getD 0))
  | .other (.octets value) => Eval.atom (.octets value)
  | .other (.thing type) => newThing type []
  | .list values => do list (← ofValues values)
  | .tuple values => do tuple (← ofValues values)
  | .dict entries => do newDict (← ofEntries entries)

def ofValues : List Value → Eval (List Datum)
  | [] => return []
  | value :: rest => return (← ofValue value) :: (← ofValues rest)

def ofEntries : List (Key × Value) → Eval (List (Datum × Datum))
  | [] => return []
  | (key, value) :: rest => do
    let key ← match key with
      | .null => pure .none
      | .bool value => pure (.bool value)
      | .int value => int value
      | .text value => text value
    return (key, ← ofValue value) :: (← ofEntries rest)

end

/-! ## What is seen -/

/-- A value of a script as seen from outside. The bound is on how deep values are in one
another. -/
def toValue : Nat → Datum → Eval Value
  | 0, _ => throwThe Halt .exhausted
  | bound + 1, value => do
    match value, ← object? value with
    | .atom .none _, _ => return .null
    | .atom (.bool value) _, _ => return .bool value
    | .atom (.int value) _, _ => return .int value
    | .atom (.text value) _, _ => return .text value
    | .tuple values _, _ => return .tuple (← values.mapM (toValue bound))
    | _, some (.list values) => return .list (← values.mapM (toValue bound))
    | _, some (.dict entries) => return .dict (← entries.mapM fun (key, value) => do
        return (.text (← printed running key), ← toValue bound value))
    | value, _ => return .other (.thing (← typeName (← typeOf value)))

/-- A value as it is shown: as it is printed, if it has no literal. -/
def shown (value : Datum) : Eval Value := do
  let found ← toValue maxDepth value
  match found.toLiteral with
  | .error (.type _) => return .text (← printed running value)
  | _ => return found

/-- What is seen of a tool that a script has made. -/
def toolView (tool : Datum) : Eval (Except UseError ToolView) := do
  let name ← member running tool "name"
  let description ← member running tool "description"
  let inputType ← member running tool "input_type"
  let schema ← toValue maxDepth (← member running tool "input_schema")
  match schema.toLiteral with
  | .ok inputSchema =>
    return .ok {
      name := ← shown name, description := ← shown description, inputType := ← shown inputType
      inputSchema }
  | .error (.type name) => return .error ⟨"TypeError", (Unwritable.type name).message?⟩
  | .error .digits => return .error ⟨"ValueError", none⟩

/-- Whether the message of an error is part of an answer: it is about a tool, or about a value
that has no literal. -/
def isTold (type message : String) : Bool :=
  ["MissingInputError", "ToolDefinitionError"].contains type ||
    type = "TypeError" && message.startsWith "cannot render " && message.endsWith " as a literal"

def toUseError (error : Datum) : Eval UseError := do
  let type ← typeName (← typeOf error)
  let message ← printed running error
  return { type, message := if isTold type message then some message else none }

def outcome {α : Type} (step : Eval α) : StateM Machine (Except UseError α) := do
  match ← (caught step).run with
  | .ok (.ok result) => return .ok result
  | .ok (.error error) =>
    match ← (toUseError error).run with
    | .ok error => return .error error
    | .error _ => return .error { type := "RecursionError" }
  | .error _ => return .error { type := "RecursionError" }

/-! ## Tools -/

/-- Calls the function that constructs the tools. -/
def callAggregator (aggregator : String) (implementation : Datum) : Eval (List Datum) := do
  let function ← scriptName aggregator
  items running (← running.call function ⟨[implementation], []⟩)

/-- Calls a tool with an input. The answer is whether the input is given back. -/
def callTool (tools : List Datum) (number : Nat) (input : Eval Datum) : Eval Bool := do
  match tools[number]? with
  | none => fail "IndexError"
  | some tool =>
    let input ← input
    return (← running.call tool ⟨[input], []⟩).isSame input

def useTools (aggregator : String) (implementation : Eval Datum)
    (calls : List (Nat × Eval Datum)) : StateM Machine ModuleUse := do
  let found ← outcome do
    let tools ← callAggregator aggregator (← implementation)
    return (tools, (← tools.mapM toolView).mapM id)
  match found with
  | .error error => return ⟨.error error, []⟩
  | .ok (_, .error error) => return ⟨.error error, []⟩
  | .ok (tools, .ok views) =>
    if tools.isEmpty then return ⟨.ok [], []⟩
    return ⟨.ok views, ← calls.mapM fun (number, input) => outcome (callTool tools number input)⟩

/-- Runs a script and uses what it defines. -/
def useScript (program : Program) (aggregator : String) (implementation : Eval Datum)
    (calls : List (Nat × Eval Datum)) : StateM Machine (Except UseError ModuleUse) := do
  match ← outcome (runScript program) with
  | .error error => return .error error
  | .ok () => .ok <$> useTools aggregator implementation calls

end Script

/-- Uses a module: runs its text, constructs its tools for an implementation and calls some of them,
each given by its number, one after the other. Neither the implementation nor the inputs exist
before they are needed. -/
def Module.use (m : Module) (implementation : Script.Eval Script.Datum)
    (calls : List (Nat × Script.Eval Script.Datum)) : Except UseError ModuleUse := do
  let program ← (Script.Program.ofText? m.render).mapError fun flaw => { type := flaw.errorType }
  ((Script.useScript program m.aggregator implementation calls).run (.forModule m.support)).1

end ToolBindings
