import ToolBindings.Descriptor.TypeIndex
import ToolBindings.Metadata
import ToolBindings.Tool.TypeRef
/-!
# What a field contributes to a schema

`FieldSpec.ofField` classifies a field as a single value, a list or a map, finds the type
of its values, and adds the field's metadata.
-/
namespace ToolBindings

/-- The form of a field. -/
inductive FieldKind where
  | scalar | message | repeated | map
deriving DecidableEq, Repr

def FieldKind.name : FieldKind → String
  | scalar => "scalar" | message => "message" | repeated => "repeated" | map => "map"

/-- A field as a schema describes it. -/
structure FieldSpec where
  name : String
  kind : FieldKind
  /-- The type of the value, of the elements of a list, or of the values of a map. -/
  typeRef : TypeRef
  description : String := ""
  sample : String := ""
  required : Bool := false
  /-- Whether the field carries metadata at all. -/
  annotated : Bool := false
deriving DecidableEq, Repr

/-- The JSON type of a value; values of messages and groups have none. -/
def FieldType.jsonType? : FieldType → Option String
  | double | float => some "number"
  | int64 | uint64 | int32 | fixed64 | fixed32 | uint32 | sfixed32 | sfixed64 | sint32 | sint64 =>
    some "integer"
  | bool => some "boolean"
  | string | bytes | enum => some "string"
  | message | group => none

/-- Keys of maps are integers, booleans and texts. -/
def FieldType.isKey (type : FieldType) : Bool :=
  type == .string || type.jsonType? == some "integer" || type.jsonType? == some "boolean"

/-- Message types with a JSON form of their own, which is described in place of their structure. -/
def wellKnownTypes : List (String × String) := [
  (".google.protobuf.Timestamp", "string"), (".google.protobuf.Duration", "string"),
  (".google.protobuf.FieldMask", "string"), (".google.protobuf.DoubleValue", "number"),
  (".google.protobuf.FloatValue", "number"), (".google.protobuf.Int64Value", "integer"),
  (".google.protobuf.UInt64Value", "integer"), (".google.protobuf.Int32Value", "integer"),
  (".google.protobuf.UInt32Value", "integer"), (".google.protobuf.BoolValue", "boolean"),
  (".google.protobuf.StringValue", "string"), (".google.protobuf.BytesValue", "string"),
  (".google.protobuf.Struct", "object"), (".google.protobuf.Empty", "object")]

def Field.elementType (owner : String) (field : Field) : Except Failure TypeRef :=
  match field.type.jsonType? with
  | some jsonType => .ok (.scalar jsonType)
  | none =>
    if field.type = .message then
      .ok (TypeRef.ofName ((wellKnownTypes.lookup field.typeName).getD field.typeName))
    else .error (.rejected (.shape (.unsupportedType (owner ++ "." ++ field.name) field.type)))

/-- The entry type of a map field; none, if the field is no map. Only a repeated field
of a message type without a JSON form of its own can be one. -/
def Field.mapEntryType (index : TypeIndex) (field : Field) : Except Failure (Option Message) :=
  if field.label = .repeated ∧ field.type = .message ∧
      wellKnownTypes.lookup field.typeName = none then
    (index.resolve field.typeName).map fun entry => if entry.mapEntry then some entry else none
  else .ok none

def Message.fieldNumbered? (message : Message) (number : Int32) : Option Field :=
  message.fields.reverse.find? (·.number == number)

namespace FieldSpec

/-- Form and type of the values of a map: the key is field 1 and the value field 2 of the entry. -/
def ofEntry (field : String) (entry : Message) : Except Failure (FieldKind × TypeRef) :=
  match entry.fieldNumbered? 1, entry.fieldNumbered? 2 with
  | some key, some value =>
    if key.type.isKey then (value.elementType field).map ((.map, ·))
    else .error (.rejected (.shape (.unsupportedKey field key.type)))
  | _, _ => .error (.rejected (.shape (.malformedEntry field)))

def classify (index : TypeIndex) (owner : String) (field : Field) :
    Except Failure (FieldKind × TypeRef) := do
  match ← field.mapEntryType index with
  | some entry => ofEntry (owner ++ "." ++ field.name) entry
  | none =>
    let typeRef ← field.elementType owner
    if field.label = .repeated then return (.repeated, typeRef)
    else if typeRef.isMessage then return (.message, typeRef)
    else return (.scalar, typeRef)

/-- The specification of a field of the message type `owner`. Errors in the metadata come
before errors in the field. -/
def ofField (index : TypeIndex) (owner : String) (field : Field) : Except Failure FieldSpec := do
  let metadata? ← field.metadata
  let (kind, typeRef) ← classify index owner field
  let metadata := metadata?.getD {}
  return {
    name := field.name, kind, typeRef,
    description := metadata.description
    sample := metadata.sample
    required := metadata.required
    annotated := metadata?.isSome }

end FieldSpec

end ToolBindings
