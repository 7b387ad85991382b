import ToolBindings.Entries
import ToolBindings.Literal.Basic
/-!
# Schema nodes

A schema describes the shape of a value: an object with properties, an array with
items, or a scalar. `Node.toLiteral` gives the form in which a schema stands in a
generated module; attributes without content are left out of it.
-/
namespace ToolBindings.Schema

/-- The description of a value. The builder fills in `properties` and `required` for
objects and `items` for arrays. -/
structure Node where
  /-- "object", "array" or the name of a scalar type. -/
  type : String
  description : String := ""
  /-- A sample value. -/
  sample : String := ""
  properties : Option (List (String × Node)) := none
  items : Option Node := none
  /-- The names of the properties that must be present. -/
  required : Option (List String) := none
deriving Repr, Inhabited, BEq

def objectType : String := "object"

def arrayType : String := "array"

namespace Node

def isObject (node : Node) : Bool := node.type == objectType

/-- A value without parts. -/
def scalar (type : String) (description sample : String) : Node :=
  { type, description, sample }

def object (properties : List (String × Node)) (required : List String)
    (description sample : String) : Node :=
  { type := objectType, description, sample, properties := some properties,
    required := some required }

def array (items : Node) (description sample : String) : Node :=
  { type := arrayType, description, sample, items := some items }

/-- An object about which nothing is said. -/
def opaqueObject : Node := object [] [] "" ""

/-- The node with another description and sample, where these are not empty. -/
def described (node : Node) (description sample : String) : Node :=
  { node with
    description := if description = "" then node.description else description
    sample := if sample = "" then node.sample else sample }

/-- An entry for a text, left out if the text is empty. -/
def textEntry (key value : String) : List (String × Literal) :=
  if value = "" then [] else [(key, .text value)]

mutual

/-- The literal of a schema. Only an object has properties and required names in it, and
only an array has items. -/
def toLiteral : Node → Literal
  | ⟨type, description, sample, properties, items, required⟩ =>
    .dict (("type", .text type) ::
      (textEntry "description" description ++ textEntry "example" sample ++
        (if type = objectType then [("properties", .dict (propertyLiterals properties))] else []) ++
        (if type = arrayType then itemsEntry items else []) ++
        (match required with
          | some (name :: names) =>
            if type = objectType then [("required", .list ((name :: names).map .text))] else []
          | _ => [])))

def propertyLiterals : Option (List (String × Node)) → List (String × Literal)
  | none => []
  | some properties => entryLiterals properties

def entryLiterals : List (String × Node) → List (String × Literal)
  | [] => []
  | (name, node) :: rest => (name, node.toLiteral) :: entryLiterals rest

def itemsEntry : Option Node → List (String × Literal)
  | none => []
  | some node => [("items", node.toLiteral)]

end

end Node

end ToolBindings.Schema
