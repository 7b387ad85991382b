import ToolBindings.Octets
/-!
# Schema descriptors

What the compiler tells the generator about the schema files: files with their
messages and services, and the request that carries them. Only what the generator
reads is kept. The options of fields and methods stay octets, because the metadata in
them is read where it is needed.
-/
namespace ToolBindings

/-- The types of fields. -/
inductive FieldType where
  | double | float | int64 | uint64 | int32 | fixed64 | fixed32 | bool | string | group
  | message | bytes | uint32 | enum | sfixed32 | sfixed64 | sint32 | sint64
deriving DecidableEq, Repr

namespace FieldType

/-- All types, in the order of their numbers, which start at 1. -/
def all : List FieldType := [
  double, float, int64, uint64, int32, fixed64, fixed32, bool, string, group,
  message, bytes, uint32, enum, sfixed32, sfixed64, sint32, sint64]

def number : FieldType → Nat
  | double => 1 | float => 2 | int64 => 3 | uint64 => 4 | int32 => 5 | fixed64 => 6
  | fixed32 => 7 | bool => 8 | string => 9 | group => 10 | message => 11 | bytes => 12
  | uint32 => 13 | enum => 14 | sfixed32 => 15 | sfixed64 => 16 | sint32 => 17 | sint64 => 18

def ofNumber? (n : Nat) : Option FieldType := all.find? (·.number == n)

def name : FieldType → String
  | double => "TYPE_DOUBLE" | float => "TYPE_FLOAT" | int64 => "TYPE_INT64"
  | uint64 => "TYPE_UINT64" | int32 => "TYPE_INT32" | fixed64 => "TYPE_FIXED64"
  | fixed32 => "TYPE_FIXED32" | bool => "TYPE_BOOL" | string => "TYPE_STRING"
  | group => "TYPE_GROUP" | message => "TYPE_MESSAGE" | bytes => "TYPE_BYTES"
  | uint32 => "TYPE_UINT32" | enum => "TYPE_ENUM" | sfixed32 => "TYPE_SFIXED32"
  | sfixed64 => "TYPE_SFIXED64" | sint32 => "TYPE_SINT32" | sint64 => "TYPE_SINT64"

theorem ofNumber?_number (t : FieldType) : ofNumber? t.number = some t := by
  cases t <;> rfl

end FieldType

/-- How often a field occurs. -/
inductive Label where
  | optional | required | repeated
deriving DecidableEq, Repr

namespace Label

def number : Label → Nat
  | optional => 1 | required => 2 | repeated => 3

def ofNumber? (n : Nat) : Option Label := [optional, required, repeated].find? (·.number == n)

theorem ofNumber?_number (l : Label) : ofNumber? l.number = some l := by
  cases l <;> rfl

end Label

/-- A field of a message. What the descriptor leaves out has the value given here. -/
structure Field where
  name : String := ""
  number : Int32 := 0
  type : FieldType := .double
  label : Label := .optional
  /-- Full name of the message or enumeration that the field holds, with a leading dot. -/
  typeName : String := ""
  /-- The field's options as they were encoded. -/
  options : Octets := []
deriving DecidableEq, Repr

/-- A message type. -/
structure Message where
  name : String := ""
  fields : List Field := []
  /-- The message types declared inside this one. -/
  nested : List Message := []
  /-- Whether the type was made for the entries of a map field. -/
  mapEntry : Bool := false
deriving Repr, Inhabited

/-- A method of a service. -/
structure Method where
  name : String := ""
  /-- Full name of the message that the method takes, with a leading dot. -/
  input : String := ""
  /-- Full name of the message that the method returns, with a leading dot. -/
  output : String := ""
  /-- The method's options as they were encoded. -/
  options : Octets := []
  clientStreaming : Bool := false
  serverStreaming : Bool := false
deriving DecidableEq, Repr

/-- A service. -/
structure Service where
  name : String := ""
  methods : List Method := []
deriving DecidableEq, Repr

/-- A schema file. -/
structure File where
  name : String := ""
  package : String := ""
  messages : List Message := []
  services : List Service := []
deriving Repr

/-- A file's package and the names of elements in it, joined by dots. Empty names are
left out, so there is no leading dot. -/
def qualifiedName (package : String) (names : List String) : String :=
  ".".intercalate ((package :: names).filter (· ≠ ""))

/-- What the compiler asks of the generator. -/
structure Request where
  /-- The generator's settings, as the user wrote them. -/
  parameter : String := ""
  /-- Names of the files to generate modules for. -/
  toGenerate : List String := []
  /-- The files to generate for and all files that they depend on. -/
  files : List File := []
deriving Repr

/-- A generated file. -/
structure GeneratedFile where
  name : String
  content : String
deriving DecidableEq, Repr

/-- The generator's answer. -/
structure Response where
  /-- Why nothing was generated. -/
  error : Option String := none
  /-- Optional features of the schema language that the generator can handle, as a set of bits. -/
  supportedFeatures : Nat := 0
  files : List GeneratedFile := []
deriving DecidableEq, Repr

end ToolBindings
