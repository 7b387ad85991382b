/-!
# References to types

What the value of a field refers to: a message type by its full name, the object of
which nothing is known, or a scalar type.
-/
namespace ToolBindings

/-- A reference to a type. -/
inductive TypeRef where
  /-- An object whose structure is not described. -/
  | object
  /-- The message type with a full name, which begins with a dot. -/
  | message (fullName : String)
  /-- A type without structure. -/
  | scalar (name : String)
deriving DecidableEq, Repr

namespace TypeRef

/-- The reference that a name writes: names of message types begin with a dot. -/
def ofName (name : String) : TypeRef :=
  if name = "object" then object
  else if name.toList.head? = some '.' then message name
  else scalar name

def name : TypeRef → String
  | object => "object"
  | message fullName => fullName
  | scalar name => name

def isMessage : TypeRef → Bool
  | message _ => true
  | object | scalar _ => false

end TypeRef

def withoutDots (fullName : String) : String :=
  String.ofList (fullName.toList.dropWhile (· == '.'))

end ToolBindings
