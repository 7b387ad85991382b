import ToolBindings.Descriptor.Basic
import ToolBindings.Descriptor.Layout
/-!
# Reading descriptors

Requests and answers from their octets. Every message may lack any record; of a single
value the last record counts, and the parts of a single message are put together.
Numbers of types and labels that do not exist are passed over. A request is read only if
all of it is well formed, also the parts that nothing here looks at.
-/
namespace ToolBindings
open Wire

/-- The last number that stands for something; the default without any. An enumeration's
number is the low 32 bits of the integer. -/
def lastOf {α : Type} (ofNumber? : Nat → Option α) (default : α) (numbers : List Nat) : α :=
  (numbers.filterMap fun n => ofNumber? (n % (1 <<< 32))).getLastD default

def Field.ofOctets? (octets : Octets) : Option Field := do
  let records ← records? maxNesting octets
  return {
    name := ← text? 1 records
    number := Int32.ofInt ((uints 3 records).getLastD 0)
    label := lastOf Label.ofNumber? .optional (uints 4 records)
    type := lastOf FieldType.ofNumber? .double (uints 5 records)
    typeName := ← text? 6 records
    options := merged 8 records }

def Message.ofOctets? (octets : Octets) : Option Message :=
  match _ : records? maxNesting octets with
  | none => none
  | some records => do
    let name ← text? 1 records
    let fields ← (payloads 2 records).mapM Field.ofOctets?
    let nested ← (payloads 3 records).attach.mapM fun part => Message.ofOctets? part.1
    let options ← records? maxNesting (merged 7 records)
    return { name, fields, nested, mapEntry := flag 7 options }
termination_by octets.length
decreasing_by exact length_of_mem_payloads ‹_› part.2

/-- A message is read from its records, and the messages inside it in the same way. -/
theorem Message.ofOctets?_eq (octets : Octets) : Message.ofOctets? octets = do
    let records ← records? maxNesting octets
    let name ← text? 1 records
    let fields ← (payloads 2 records).mapM Field.ofOctets?
    let nested ← (payloads 3 records).mapM Message.ofOctets?
    let options ← records? maxNesting (merged 7 records)
    return { name, fields, nested, mapEntry := flag 7 options } := by
  rw [Message.ofOctets?]
  split
  · next h => simp [h]
  · next records h =>
    have attached := List.mapM_subtype (m := Option) (l := (payloads 3 records).attach)
      (f := fun part => Message.ofOctets? part.1) (g := Message.ofOctets?) (fun _ _ => rfl)
    rw [attached, List.unattach_attach]
    simp [h]

def Method.ofOctets? (octets : Octets) : Option Method := do
  let records ← records? maxNesting octets
  return {
    name := ← text? 1 records
    input := ← text? 2 records
    output := ← text? 3 records
    options := merged 4 records
    clientStreaming := flag 5 records
    serverStreaming := flag 6 records }

def Service.ofOctets? (octets : Octets) : Option Service := do
  let records ← records? maxNesting octets
  return { name := ← text? 1 records, methods := ← (payloads 2 records).mapM Method.ofOctets? }

def File.ofOctets? (octets : Octets) : Option File := do
  let records ← records? maxNesting octets
  return {
    name := ← text? 1 records
    package := ← text? 2 records
    messages := ← (payloads 4 records).mapM Message.ofOctets?
    services := ← (payloads 6 records).mapM Service.ofOctets? }

/-- The request in a message that is well formed. -/
def Request.ofRecords? (records : List Record) : Option Request := do
  return {
    toGenerate := ← texts? 1 records
    parameter := ← text? 2 records
    files := ← (payloads 15 records).mapM File.ofOctets? }

def Request.ofOctets? (octets : Octets) : Option Request := do
  guard (MessageKind.request.accepts octets)
  Request.ofRecords? (← records? maxNesting octets)

def GeneratedFile.ofOctets? (octets : Octets) : Option GeneratedFile := do
  let records ← records? maxNesting octets
  return { name := ← text? 1 records, content := ← text? 15 records }

def Response.ofOctets? (octets : Octets) : Option Response := do
  let records ← records? maxNesting octets
  return {
    error := (← texts? 1 records).getLast?
    supportedFeatures := (uints 2 records).getLastD 0
    files := ← (payloads 15 records).mapM GeneratedFile.ofOctets? }

end ToolBindings
