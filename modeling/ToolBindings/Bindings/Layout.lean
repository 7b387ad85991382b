import ToolBindings.Bindings.Module
import ToolBindings.Text.Normalization
/-!
# The text of a module

`Module.render` writes the header and then each definition. Names of files, tools and
methods stand in comments as they are; wherever they are values they are quoted.
-/
namespace ToolBindings

/-- Why a tool refuses an empty input. -/
def missingInputMessage (tool : String) : String := tool ++ " requires input"

/-- Whether a method can be reached by its name as it is: a keyword cannot. -/
def isPlainName (method : String) : Bool :=
  Text.isIdentifier method.toList && !Text.isKeyword method.toList

/-- How the method of an implementation is reached: as an attribute, or by its name as
a text. -/
def methodAccess (method : String) : String :=
  if isPlainName method then "impl." ++ method
  else "getattr(impl, " ++ Literal.renderText method ++ ")"

/-- The text of a definition. Every definition but a name constant follows two blank lines. -/
def Definition.render (name : String) : Definition → String
  | toolName tool => name ++ ": ToolName = ToolName(" ++ Literal.renderText tool ++ ")\n"
  | inputSchema schema => "\n\n" ++ name ++ ": dict[str, Any] = " ++ schema.render 0 ++ "\n"
  | dispatch ⟨tool, method, inputRequired⟩ =>
    "\n\ndef " ++ name ++ "(request: Any, impl: Any) -> Any:\n" ++
    "    \"\"\"Dispatch " ++ tool ++ " to impl." ++ method ++ ".\"\"\"\n" ++
    (if inputRequired then
      "    if is_empty_input(request):\n" ++
      "        raise MissingInputError(" ++ Literal.renderText (missingInputMessage tool) ++ ")\n"
    else "") ++
    "    return " ++ methodAccess method ++ "(request)\n"
  | construct c =>
    "\n\ndef " ++ name ++ "(impl: Any) -> Tool:\n" ++
    "    require_method(impl, " ++ Literal.renderText c.method ++ ", " ++ c.nameConstant ++ ")\n" ++
    "    return Tool(\n" ++
    "        name=" ++ c.nameConstant ++ ",\n" ++
    "        description=" ++ Literal.renderText c.description ++ ",\n" ++
    "        input_schema=" ++ c.schemaConstant ++ ",\n" ++
    "        input_type=" ++ Literal.renderText c.inputType ++ ",\n" ++
    "        fn=functools.partial(" ++ c.dispatch ++ ", impl=impl),\n" ++
    "    )\n"
  | aggregate source constructors =>
    "\n\ndef " ++ name ++ "(impl: Any) -> list[Tool]:\n" ++
    "    \"\"\"Construct every tool declared in " ++ source ++ ".\"\"\"\n" ++
    "    return [\n" ++
    String.join (constructors.map fun constructor => "        " ++ constructor ++ "(impl),\n") ++
    "    ]\n"

/-- What stands in front of the definitions. -/
def Module.header (source support : String) : String :=
  "# Code generated by protoc-gen-tools. DO NOT EDIT.\n" ++
  "# source: " ++ source ++ "\n" ++
  "\"\"\"Agent tool bindings for " ++ source ++ ".\"\"\"\n\n" ++
  "from __future__ import annotations\n\n" ++
  "import functools\n" ++
  "from typing import Any\n\n" ++
  "from " ++ support ++ " import (\n" ++
  "    MissingInputError,\n" ++
  "    Tool,\n" ++
  "    ToolName,\n" ++
  "    is_empty_input,\n" ++
  "    require_method,\n" ++
  ")\n\n"

def Module.render (m : Module) : String :=
  Module.header m.source m.support ++
    String.join (m.definitions.map fun (name, definition) => definition.render name)

end ToolBindings
