import ToolBindings.Settings
import ToolBindings.Tool.Basic
/-!
# Modules of tool bindings

What a generated module defines, before it is text: for each tool a name constant, an
input schema, a dispatch function and a constructor, and for the file an aggregator that
constructs all tools.
-/
namespace ToolBindings

/-- How a tool is constructed. The constants and the dispatch function are given by name. -/
structure Construction where
  /-- The method that the implementation must have. -/
  method : String
  nameConstant : String
  description : String
  schemaConstant : String
  inputType : String
  dispatch : String
deriving DecidableEq, Repr

/-- A function that passes the input of a tool on to a method of the implementation. -/
structure Dispatch where
  /-- The tool's name, which a refusal mentions. -/
  tool : String
  method : String
  /-- Whether an empty input is refused. -/
  inputRequired : Bool
deriving DecidableEq, Repr

/-- What a name of a module stands for. -/
inductive Definition where
  /-- The name of a tool. -/
  | toolName (name : String)
  /-- The schema of a tool's input. -/
  | inputSchema (schema : Literal)
  | dispatch (function : Dispatch)
  /-- A function that constructs a tool from the implementation. -/
  | construct (construction : Construction)
  /-- The function that calls the named constructors in order, for the tools of the file
  `source`. -/
  | aggregate (source : String) (constructors : List String)
deriving Repr

/-- A generated module. -/
structure Module where
  /-- The schema file from which the module was made. -/
  source : String
  /-- The module from which the support is taken. -/
  support : String
  /-- The name of the function that constructs all tools. -/
  aggregator : String
  /-- The definitions in their order. -/
  definitions : List (String × Definition)
deriving Repr

namespace Tool

def nameDefinition (tool : Tool) : String × Definition := (tool.constantName, .toolName tool.name)

def definitions (tool : Tool) (schema : Schema.Node) : List (String × Definition) :=
  let schemaConstant := Naming.schemaName tool.service tool.method
  let dispatch := Naming.dispatchName tool.service tool.method
  [(schemaConstant, .inputSchema schema.toLiteral),
    (dispatch, .dispatch {
      tool := tool.name, method := tool.method, inputRequired := tool.inputRequired }),
    (Naming.constructorName tool.service tool.method, .construct {
      method := tool.method, nameConstant := tool.constantName, description := tool.description,
      schemaConstant, inputType := withoutDots tool.inputType, dispatch })]

/-- The definitions of a tool beside its name constant, or the error that it has no schema. -/
def definitions? (tool : Tool) : Except Failure (List (String × Definition)) :=
  match tool.schema with
  | some schema => .ok (tool.definitions schema)
  | none => .error (.rejected (.shape (.noSchema tool.fullMethodName)))

end Tool

/-- The module for the tools of a file. All name constants come first, then the other
definitions tool by tool, and the aggregator last. -/
def Module.ofTools (file : File) (supportModule : String) (tools : List Tool) :
    Except Failure Module := do
  let aggregator := Naming.aggregatorName file.name
  let definitions ← tools.mapM Tool.definitions?
  let constructors := tools.map fun tool => Naming.constructorName tool.service tool.method
  return {
    source := file.name, support := supportModule, aggregator
    definitions := tools.map Tool.nameDefinition ++ definitions.flatten ++
      [(aggregator, .aggregate file.name constructors)] }

end ToolBindings
