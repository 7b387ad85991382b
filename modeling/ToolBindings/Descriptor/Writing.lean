import ToolBindings.Descriptor.Basic
import ToolBindings.Wire.Encoding
/-!
# Writing descriptors

Requests and answers as octets, the records in the order of their numbers. A flag that
is not set has no record, and neither has an error that does not exist; everything else
is written even if it is empty.
-/
namespace ToolBindings
open Wire

/-- A flag, left out if it is not set. -/
def flagRecord (number : Nat) (value : Bool) : Octets :=
  if value then uintRecord number 1 else []

/-- A signed integer, as the 64-bit word that is equal to it modulo 2^64. -/
def intRecord (number : Nat) (value : Int32) : Octets :=
  uintRecord number (value.toInt % (1 <<< 64 : Nat)).toNat

def Field.toOctets (field : Field) : Octets :=
  textRecord 1 field.name ++ intRecord 3 field.number ++ uintRecord 4 field.label.number ++
    uintRecord 5 field.type.number ++ textRecord 6 field.typeName ++
    delimitedRecord 8 field.options

mutual

def Message.toOctets : Message → Octets
  | ⟨name, fields, nested, mapEntry⟩ =>
    textRecord 1 name ++ fields.flatMap (fun f => delimitedRecord 2 f.toOctets) ++
      Message.nestedOctets nested ++ delimitedRecord 7 (flagRecord 7 mapEntry)

/-- The records of the message types inside a message. -/
def Message.nestedOctets : List Message → Octets
  | [] => []
  | message :: rest => delimitedRecord 3 message.toOctets ++ Message.nestedOctets rest

end

def Method.toOctets (method : Method) : Octets :=
  textRecord 1 method.name ++ textRecord 2 method.input ++ textRecord 3 method.output ++
    delimitedRecord 4 method.options ++ flagRecord 5 method.clientStreaming ++
    flagRecord 6 method.serverStreaming

def Service.toOctets (service : Service) : Octets :=
  textRecord 1 service.name ++ service.methods.flatMap fun m => delimitedRecord 2 m.toOctets

def File.toOctets (file : File) : Octets :=
  textRecord 1 file.name ++ textRecord 2 file.package ++
    file.messages.flatMap (fun m => delimitedRecord 4 m.toOctets) ++
    file.services.flatMap (fun s => delimitedRecord 6 s.toOctets)

def Request.toOctets (request : Request) : Octets :=
  request.toGenerate.flatMap (fun name => textRecord 1 name) ++ textRecord 2 request.parameter ++
    request.files.flatMap (fun f => delimitedRecord 15 f.toOctets)

def GeneratedFile.toOctets (file : GeneratedFile) : Octets :=
  textRecord 1 file.name ++ textRecord 15 file.content

def Response.toOctets (response : Response) : Octets :=
  response.error.elim [] (textRecord 1) ++ uintRecord 2 response.supportedFeatures ++
    response.files.flatMap fun f => delimitedRecord 15 f.toOctets

end ToolBindings
