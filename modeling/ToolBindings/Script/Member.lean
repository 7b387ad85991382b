import ToolBindings.Script.Library
import ToolBindings.Script.Names
/-!
# Types and members

Everything has a type, and a type extends others. A member is looked for among what a value
has of its own and among what its types define; functions that types define get the value as
their first argument.

* `typeOf`, `lineageOfType`, `isOfType`.
* `member?`, `setMember`, `deleteMember`.
-/
namespace ToolBindings.Script
open Eval

/-! ## Types -/

def Atom.typeName : Atom → String
  | none => "NoneType"
  | notImplemented => "NotImplementedType"
  | ellipsis => "ellipsis"
  | bool _ => "bool"
  | int _ => "int"
  | float _ => "float"
  | text _ => "str"
  | octets _ => "bytes"

def Object.type? : Object → Datum
  | list _ => .type "list"
  | dict _ => .type "dict"
  | set _ frozen => .type (if frozen then "frozenset" else "set")
  | frame .. => .type "frame"
  | function .. => .type "function"
  | type .. => .type "type"
  | record kind _ => kind
  | library .. => .type "module"
  | iterator .. => .type "iterator"
  | generator body _ => .type (if body.async && !body.yields then "coroutine" else "generator")
  | pending name _ => .type name
  | applied .. => .type "partial"
  | wrapped .static _ => .type "staticmethod"
  | wrapped .ofType _ => .type "classmethod"
  | wrapped .property _ => .type "property"

def typeOf (value : Datum) : Eval Datum := do
  match value with
  | .atom a _ => return .type a.typeName
  | .tuple _ _ => return .type "tuple"
  | .range .. => return .type "range"
  | .slice .. => return .type "slice"
  | .primitive _ | .method .. => return .type "builtin_function_or_method"
  | .type _ => return .type "type"
  | .bound .. => return .type "method"
  | .object place => return (← objectAt place).type?
  | .unknown => return .unknown

/-- A type and all that it extends, given how deep to look. -/
def lineageWithin : Nat → Datum → Eval (List Datum)
  | 0, type => return [type]
  | bound + 1, type => do
    match type, ← object? type with
    | .type name, _ => return (lineage name).map .type
    | type, some (.type _ bases _) =>
      let inherited ← bases.mapM (lineageWithin bound)
      return type :: withoutEarlier Datum.isSame inherited.flatten
    | type, _ => return [type]

def lineageOfType (type : Datum) : Eval (List Datum) := lineageWithin maxCalls type

def isOfType (value type : Datum) : Eval Bool := do
  return (← lineageOfType (← typeOf value)).any type.isSame

def isOf (value : Datum) (type : String) : Eval Bool := isOfType value (.type type)

def isType (value : Datum) : Eval Bool := do
  match value, ← object? value with
  | .type _, _ | _, some (.type ..) => return true
  | _, _ => return false

def typeName (type : Datum) : Eval String := do
  match type, ← object? type with
  | .type name, _ | _, some (.type name ..) => return name
  | _, _ => return "object"

def isError (value : Datum) : Eval Bool := isOf value "BaseException"

def isErrorType (value : Datum) : Eval Bool := do
  return (← isType value) && (← lineageOfType value).any (Datum.isSame (.type "BaseException"))

def membersOfType (type : Datum) : Eval Names := do
  match ← object? type with
  | some (.type _ _ members) => return members
  | _ => return []

/-- What the types of a list define under a name; the first that does counts. -/
def definedIn? (name : String) : List Datum → Eval (Option Datum)
  | [] => return none
  | type :: rest => do
    match (← membersOfType type).lookup name with
    | some value => return some value
    | none => definedIn? name rest

/-- The method that scripts define for what is done with a value. -/
def special? (value : Datum) (name : String) : Eval (Option Datum) := do
  match ← object? value with
  | some (.record type _) =>
    return (← definedIn? name (← lineageOfType type)).map (.bound value)
  | _ => return none

/-! ## Looking up -/

/-- The names of data that members of functions, types and errors have. -/
def dataMembers : List String := wordsOf [
  "__annotations__ __builtins__ __cause__ __closure__ __code__ __context__ __dataclass_fields__",
  "__dataclass_params__ __defaults__ __dict__ __doc__ __globals__ __kwdefaults__",
  "__match_args__ __module__ __name__ __qualname__ __self__ __spec__ __loader__ __package__",
  "__suppress_context__ __text_signature__ __traceback__ __weakref__ __wrapped__ __func__",
  "__base__ __bases__ __basicsize__ __dictoffset__ __flags__ __itemsize__ __mro__",
  "__weakrefoffset__ characters_written errno filename filename2 strerror fget fset fdel",
  "gi_code gi_frame gi_running gi_suspended gi_yieldfrom cr_await cr_code cr_frame cr_origin",
  "cr_running cr_suspended end_lineno end_offset lineno offset text print_file_and_line"]

/-- A member that belongs to the language, of a value whose type is known by name. -/
def plainMember (value : Datum) (type name : String) : Eval Datum := do
  match value, name with
  | .atom (.float _) _, "real" => return value
  | .atom a _, "real" | .atom a _, "numerator" =>
    if type = "bool" then int (a.int?.getD 0) else return value
  | .atom (.float _) _, "imag" => atom (.float 0)
  | .atom _ _, "imag" => return .smallInt 0
  | .atom _ _, "denominator" => return .smallInt 1
  | .range first _ _, "start" => int first
  | .range _ last _, "stop" => int last
  | .range _ _ step, "step" => int step
  | .slice first _ _, "start" => return first
  | .slice _ last _, "stop" => return last
  | .slice _ _ step, "step" => return step
  | .bound receiver _, "__self__" | .method receiver _, "__self__" => return receiver
  | .bound _ function, "__func__" => return function
  | .primitive id, "__name__" | .method _ id, "__name__" => text id
  | _, "__doc__" => text ""
  | value, _ =>
    match ← object? value with
    | some (.applied function _) =>
      if name = "func" then return function
      else if ["args", "keywords"].contains name then return .unknown
      else return .method value name
    | _ => if dataMembers.contains name then return .unknown else return .method value name

/-- Loads the library with a name, if it is not there yet. -/
def loadNamed (name : String) : Eval Datum := do
  let machine ← get
  if !isLibrary machine.support name then fail "ModuleNotFoundError"
  match machine.libraries.lookup name with
  | some place => return .object place
  | none =>
    set { machine with libraries := (name, machine.store.size) :: machine.libraries }
    put (.library name [])

/-- Loads the library at a path and those that it is a part of. The answer is the library, and
the outermost of them. -/
def loadLibrary (path : List String) : Eval (Datum × Datum) := do
  let names := (List.range path.length).map fun count => ".".intercalate (path.take (count + 1))
  let found ← names.mapM loadNamed
  return (found.getLastD .unknown, found.headD .unknown)

def libraryMember? (path : String) (members : Names) (name : String) : Eval (Option Datum) := do
  let machine ← get
  let inner := path ++ "." ++ name
  match members.lookup name, machine.libraries.lookup inner with
  | some value, _ => return some value
  | none, some place => return some (.object place)
  | none, none =>
    if ["typing", machine.support].contains path && name = "Any" then return some (.type name)
    if path = machine.support then
      if supportTypes.contains name then return some (.type name)
      if supportFunctions.contains name then return some (.primitive name)
      if supportNames.contains name then return some .unknown
    if path = "functools" && name = "partial" then return some (.type name)
    if path = "sys" && name = "exit" then return some (.primitive name)
    if path = "dataclasses" && name = "FrozenInstanceError" then return some (.type name)
    if path = "builtins" then return nameOfLanguage? name
    if memberNames "module" |>.contains name then return some .unknown
    if path = machine.support || (path ++ ".").isPrefixOf machine.support then return none
    match namesOfLibrary? path with
    | some names => return if names.contains name then some .unknown else none
    | none => return some .unknown

/-- What a member that a type defines is for a value of the type, or for the type itself. -/
def boundMember (r : Runner) (value : Option Datum) (type found : Datum) : Eval Datum := do
  match ← object? found with
  | some (.function ..) => return value.elim found fun value => .bound value found
  | some (.wrapped .static function) => return function
  | some (.wrapped .ofType function) => return .bound type function
  | some (.wrapped .property function) =>
    match value with
    | some value => r.call function ⟨[value], []⟩
    | none => return found
  | _ => return found

/-- The name of the first type in a lineage that belongs to the language. -/
def languageType (types : List Datum) : String :=
  (types.findSome? fun
    | .type name => some name
    | _ => none).getD "object"

/-- The first argument with which an error was made, if it has one. -/
def firstArgument (members : Names) : Datum :=
  match members.lookup "args" with
  | some (.tuple (item :: _) _) => item
  | _ => .none

/-- The members that describe a record. None of its own replaces them. -/
def describingMembers : List String := ["__class__", "__dict__", "__weakref__"]

/-- A member of a record. -/
def recordMember? (r : Runner) (value type : Datum) (members : Names) (name : String) :
    Eval (Option Datum) := do
  let types ← lineageOfType type
  let own := if describingMembers.contains name then none else members.lookup name
  match ← definedIn? name types, own with
  | some found, own =>
    match ← object? found, own with
    | some (.wrapped .property _), _ | _, none => some <$> boundMember r (some value) type found
    | _, some own => return some own
  | none, some own => return some own
  | none, none =>
    let base := languageType types
    if name = "__class__" then return some type
    if name = "__doc__" then return some .none
    if memberNames base |>.contains name then
      if ["value", "code"].contains name then return some (firstArgument members)
      if ["msg", "path", "name", "obj"].contains name then return some .none
      return some (← plainMember value base name)
    if base ≠ (← typeName type) then
      match name with
      | "__weakref__" => return some .none
      | "__module__" => return some (← text "")
      | "__dict__" =>
        let entries ← members.mapM fun (name, value) => return (← text name, value)
        return some (← put (.dict entries))
      | _ => pure ()
    match ← definedIn? "__getattr__" types with
    | some function => return some (← r.call function ⟨[value, ← text name], []⟩)
    | none => return none

def typeMember? (r : Runner) (type : Datum) (bases : List Datum) (ownName name : String) :
    Eval (Option Datum) := do
  let types ← lineageOfType type
  match ← definedIn? name types with
  | some found => some <$> boundMember r none type found
  | none =>
    if ["__name__", "__qualname__"].contains name then return some (← text ownName)
    if name = "__class__" then return some (.type "type")
    if name = "__bases__" then return some (← tuple bases)
    if name = "__mro__" then return some (← tuple types)
    if memberNames (languageType types) |>.contains name then
      return some (.method (.type (languageType types)) name)
    return if memberNames "type" |>.contains name then some .unknown else none

def member? (r : Runner) (value : Datum) (name : String) : Eval (Option Datum) := do
  match value, ← object? value with
  | .unknown, _ => return some .unknown
  | _, some (.record type members) => recordMember? r value type members name
  | _, some (.type ownName bases _) => typeMember? r value bases ownName name
  | _, some (.library path members) => libraryMember? path members name
  | _, some (.function function members) =>
    if let some own := members.lookup name then return some own
    if ["__name__", "__qualname__"].contains name then return some (← text function.name)
    if name = "__class__" then return some (.type "function")
    if memberNames "function" |>.contains name then
      return some (← plainMember value "function" name)
    return none
  | .type type, _ =>
    if ["__name__", "__qualname__"].contains name then return some (← text type)
    if name = "__class__" then return some (.type "type")
    if name = "__mro__" then return some (← tuple ((lineage type).map .type))
    if memberNames type |>.contains name then return some (.method value name)
    return if memberNames "type" |>.contains name then some .unknown else none
  | _, _ =>
    let type ← typeOf value
    if name = "__class__" then return some type
    let type ← typeName type
    if memberNames type |>.contains name then return some (← plainMember value type name)
    return none

def member (r : Runner) (value : Datum) (name : String) : Eval Datum := do
  match ← member? r value name with
  | some found => return found
  | none => fail "AttributeError"

/-! ## Changing -/

/-- Changes the members that a value has of its own. The change may refuse. -/
def changeMembers (r : Runner) (value : Datum) (name : String) (change : Names → Eval Names) :
    Eval Unit := do
  match value, ← object? value with
  | .unknown, _ => return
  | .object place, some (.record type members) =>
    let types ← lineageOfType type
    if types.any (Datum.isSame (.type "Tool")) then fail "FrozenInstanceError"
    match ← definedIn? name types with
    | some found => if let some (.wrapped .property _) ← object? found then fail "AttributeError"
    | none => pure ()
    if name = "__class__" then fail "TypeError"
    if types.length = 1 then fail "AttributeError"
    replace place (.record type (← change members))
  | .object place, some (.type own bases members) =>
    replace place (.type own bases (← change members))
  | .object place, some (.function function members) =>
    replace place (.function function (← change members))
  | .object place, some (.library path members) =>
    replace place (.library path (← change members))
  | .type type, _ => if supportTypes.contains type then return else fail "TypeError"
  | value, _ =>
    if name = "__class__" then fail "TypeError"
    else
      let _ ← member? r value name
      fail "AttributeError"

def setMember (r : Runner) (object : Datum) (name : String) (value : Datum) : Eval Unit := do
  match ← special? object "__setattr__" with
  | some function => let _ ← r.call function ⟨[← text name, value], []⟩
  | none =>
    match name, ← object? value with
    | "__dict__", some (.dict entries) =>
      let members : Names := entries.filterMap fun (key, value) => key.text?.map (·, value)
      changeMembers r object name fun _ => return members
    | "__dict__", _ => fail "TypeError"
    | _, _ => changeMembers r object name fun members => return members.put name value

/-- Takes a member of a value away. -/
def deleteMember (r : Runner) (object : Datum) (name : String) : Eval Unit := do
  match ← special? object "__delattr__" with
  | some function => let _ ← r.call function ⟨[← text name], []⟩
  | none => changeMembers r object name fun members => do
    if name = "__dict__" then return []
    if (members.lookup name).isSome then return members.remove name else fail "AttributeError"

end ToolBindings.Script
