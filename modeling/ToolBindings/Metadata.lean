import ToolBindings.Descriptor.Layout
import ToolBindings.Failure
import ToolBindings.Wire.Encoding
/-!
# Tool and field metadata

A method is made a tool, and a field of its input described, by a message in the
options. In the options it is one record among others; several such records are parts
of one message.

* `ToolMetadata.ofOptions`, `FieldMetadata.ofOptions` read the metadata: nothing, if
  there is no such record; an error, if the options or the message are malformed.
* `Method.metadata`, `Field.metadata` read it from options that were read with their
  method or field; these must be complete as well.
* `ToolMetadata.toOptions`, `FieldMetadata.toOptions` write options that hold nothing else.
-/
namespace ToolBindings
open Wire

/-- What a method says of itself as a tool. -/
structure ToolMetadata where
  /-- The tool's name; empty, if it is to be derived. -/
  name : String := ""
  description : String := ""
deriving DecidableEq, Repr

/-- What a field says of itself. -/
structure FieldMetadata where
  description : String := ""
  /-- Whether the input must have the field. -/
  required : Bool := false
  /-- A sample value. -/
  sample : String := ""
deriving DecidableEq, Repr

/-- The records of the message in the options' records of one number; none, if the options
have no delimited record of that number. -/
def embeddedMessage (number : Nat) (options : Octets) : Except Failure (Option (List Record)) :=
  match records? maxNesting options with
  | none => .error .malformed
  | some records =>
    match payloads number records with
    | [] => .ok none
    | parts =>
      match parts.mapM (records? (maxNesting - 1)) with
      | none => .error .malformed
      | some parts => .ok (some parts.flatten)

namespace ToolMetadata

/-- The number of the tool metadata among the options of a method. -/
def optionNumber : Nat := 51234

def ofRecords? (records : List Record) : Option ToolMetadata := do
  let name ← text? 1 records
  let description ← text? 2 records
  return { name, description }

/-- The tool metadata in the options of a method. -/
def ofOptions (options : Octets) : Except Failure (Option ToolMetadata) := do
  match ← embeddedMessage optionNumber options with
  | none => return none
  | some records =>
    match ofRecords? records with
    | none => throw .malformed
    | some metadata => return some metadata

end ToolMetadata

namespace FieldMetadata

/-- The number of the field metadata among the options of a field. -/
def optionNumber : Nat := 51235

def ofRecords? (records : List Record) : Option FieldMetadata := do
  let description ← text? 1 records
  let sample ← text? 3 records
  return { description, required := flag 2 records, sample }

/-- The field metadata in the options of a field. -/
def ofOptions (options : Octets) : Except Failure (Option FieldMetadata) := do
  match ← embeddedMessage optionNumber options with
  | none => return none
  | some records =>
    match ofRecords? records with
    | none => throw .malformed
    | some metadata => return some metadata

end FieldMetadata

/-- Whether a part of the name of a raw option has its text and says what kind of part it is. -/
def isNamePart (octets : Octets) : Bool :=
  match records? maxNesting octets with
  | none => false
  | some records => !(payloads 1 records).isEmpty && !(uints 2 records).isEmpty

/-- Whether the raw options among the options have complete names. -/
def isComplete (options : Octets) : Bool :=
  match records? maxNesting options with
  | none => false
  | some records => (payloads MessageKind.rawOptionNumber records).all fun option =>
    match records? maxNesting option with
    | none => false
    | some records => (payloads 2 records).all isNamePart

def completeOptions (options : Octets) : Except Failure Octets :=
  if isComplete options then .ok options else .error .incomplete

def Method.metadata (method : Method) : Except Failure (Option ToolMetadata) := do
  ToolMetadata.ofOptions (← completeOptions method.options)

def Field.metadata (field : Field) : Except Failure (Option FieldMetadata) := do
  FieldMetadata.ofOptions (← completeOptions field.options)

/-- A text record, left out if the text is empty. -/
def nonemptyText (number : Nat) (text : String) : Octets :=
  if text = "" then [] else textRecord number text

/-- Options that hold the metadata; even metadata without content is present in them. -/
def ToolMetadata.toOptions (metadata : ToolMetadata) : Octets :=
  delimitedRecord ToolMetadata.optionNumber
    (nonemptyText 1 metadata.name ++ nonemptyText 2 metadata.description)

/-- Options that hold the metadata; even metadata without content is present in them. -/
def FieldMetadata.toOptions (metadata : FieldMetadata) : Octets :=
  delimitedRecord FieldMetadata.optionNumber
    (nonemptyText 1 metadata.description ++
      (if metadata.required then uintRecord 2 1 else []) ++
      nonemptyText 3 metadata.sample)

end ToolBindings
