import ToolBindings.Schema.Node
import ToolBindings.Tool.FieldSpec
/-!
# Tools

A method that agents can call: its names, the fields of its input that say something of
themselves, and, once it is built, the schema of its input.
-/
namespace ToolBindings

/-- A method that agents can call. -/
structure Tool where
  name : String
  description : String
  service : String
  method : String
  /-- The method's full name, without a leading dot. -/
  fullMethodName : String
  /-- The full name of the input's type, with a leading dot. -/
  inputType : String
  /-- The constant that holds the tool's name. -/
  constantName : String
  /-- The fields of the input that carry metadata. -/
  fields : List FieldSpec := []
  /-- The schema of the input. -/
  schema : Option Schema.Node := none

/-- Whether the input has a required field, so that there must be an input. -/
def Tool.inputRequired (tool : Tool) : Bool := tool.fields.any (·.required)

def File.ownerLabel (file : File) (service method : String) : String :=
  qualifiedName file.package [service, method] ++ " (" ++ file.name ++ ")"

/-- The methods of a file, each with the name of its service, in the order of declaration. -/
def File.methods (file : File) : List (String × Method) :=
  file.services.flatMap fun service => service.methods.map fun method => (service.name, method)

end ToolBindings
