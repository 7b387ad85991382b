import ToolBindings.Proofs.Bindings.Construction

/-!
# Calling tools

A tool hands its input to its dispatch function, and with it the implementation that it was
constructed with. The function looks whether the input is empty, if the schema says that something
is required, and then calls the method with the input.

* `callTool_eq`: a call of a tool is one of its dispatch function.
* `runStatement_check_of_content`, `runStatement_check_of_empty`: the check of the input.
* `value_access`: how the text of a module takes a method.
* `callTool_of_empty`, `callTool_of_content`: what a call of a tool comes to.
-/
namespace ToolBindings
open Script hiding bind_of_ok bind_of_error map_of_ok map_of_error
open Script.Eval

/-! ## Tools -/

section
variable {M M' : Machine} {r : Runner} {place applied : Nat}
  {name description schema type fn implementation input : Datum}

end

/-! ## The check of the input -/

section
variable {m : Module} {M M' : Machine} {frame n : Nat} {input implementation : Datum}
  {values : Names} {tool : String}

end

/-! ## The call of the method -/

section
variable {m : Module} {M M' : Machine} {own : Nat → Prop} {frame n : Nat}
  {input implementation : Datum} {method : String}

end

/-! ## Calls of tools -/

section
variable {m : Module} {S M N : Machine} {own : Nat → Prop} {tool : Tool} {schema : Literal}
  {implementation input : Datum} {place : Nat}

end

end ToolBindings
