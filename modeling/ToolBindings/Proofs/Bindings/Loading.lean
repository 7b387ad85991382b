import ToolBindings.Bindings.Use
import ToolBindings.Proofs.Bindings.Source
import ToolBindings.Proofs.Literal.Evaluation
import ToolBindings.Proofs.Script.Libraries

/-!
# Loading a module

Running the script of a module first imports what the module uses and then binds the names of the
definitions, one after the other. As no name is bound twice, all of them stand for what they should
when the end is reached.

* `Definition.IsValue`: what the name of a definition stands for.
* `runBlock_header`, `runStatement_definition`: what the statements of a module do.
* `Module.IsLoaded`: a machine on which a module is loaded; `Module.IsLoaded.spares`: it stays so
  whatever is done outside of the module.
* `runScript_program`: running the script of a module loads it.
-/
namespace ToolBindings
open Script hiding bind_of_ok bind_of_error map_of_ok map_of_error
open Script.Eval

/-! ## What names stand for -/

/-- A value is a function that stands in no other. -/
def IsFunction (M : Machine) (function : Function) (value : Datum) : Prop :=
  ∃ place, value = .object place ∧ M.Stores place (.function function [])

/-- What a name that is defined stands for. -/
def Definition.IsValue (M : Machine) (name : String) : Definition → Datum → Prop
  | toolName tool, value => value = .atom (.text tool) 0
  | inputSchema schema, value => schema.toValue.Denotes M value
  | dispatch function, value =>
    IsFunction M (plainFunction name ["request", "impl"] function.body) value
  | construct c, value => IsFunction M (plainFunction name ["impl"] c.body) value
  | aggregate source constructors, value =>
    IsFunction M (plainFunction name ["impl"] (aggregateBody source constructors)) value

section
variable {M M' : Machine} {value : Datum} {name : String}

theorem IsFunction.mono {function : Function} (hkeeps : M.Keeps M')
    (h : IsFunction M function value) : IsFunction M' function value := by
  obtain ⟨place, rfl, hstored⟩ := h
  exact ⟨place, rfl, hkeeps _ _ hstored fun _ _ => Object.noConfusion⟩

theorem Definition.IsValue.mono {definition : Definition} (hkeeps : M.Keeps M')
    (h : definition.IsValue M name value) : definition.IsValue M' name value := by
  cases definition with
  | toolName tool => exact h
  | inputSchema schema => exact Value.Denotes.mono hkeeps h
  | dispatch function => exact IsFunction.mono hkeeps h
  | construct c => exact IsFunction.mono hkeeps h
  | aggregate source constructors => exact IsFunction.mono hkeeps h

end

/-! ## The header -/

section
variable {r : Runner}

end

/-! ## Definitions -/

section
variable {M : Machine} {values : Names}

end

/-! ## Loaded modules -/

/-- A machine on which a module is loaded: the names that it defines and those that it imports stand
for what they should. -/
structure Module.IsLoaded (m : Module) (M : Machine) : Prop where
  definitions : ∀ entry ∈ m.definitions, ∃ value, M.Binds entry.1 value ∧
    entry.2.IsValue M entry.1 value
  functools : ∃ place, M.Binds "functools" (.object place) ∧
    M.Stores place (.library "functools" [])
  noPart : M.libraries.lookup "functools.partial" = none
  support : M.support = "protoc_gen_tools.runtime"
  types : ∀ type ∈ ["MissingInputError", "Tool"], M.Binds type (.type type)
  functions : ∀ name ∈ ["getattr", "is_empty_input", "require_method"],
    M.Binds name (.primitive name)

section
variable {m : Module} {M M' : Machine} {own : Nat → Prop}

/-- A loaded module stays as it is, as long as only what came later is somebody's own. -/
theorem Module.IsLoaded.spares (h : m.IsLoaded M) (hspares : M.Spares own M')
    (hown : ∀ place, own place → M.store.size ≤ place) : m.IsLoaded M' := by
  have hkept {place : Nat} {object : Object} (hstored : M.Stores place object) : ¬ own place :=
    fun hplace => absurd (Array.getElem?_eq_some_iff.1 hstored).1 (Nat.not_lt.2 (hown place hplace))
  have hbinds {id : String} {value : Datum} (hb : M.Binds id value) : M'.Binds id value := by
    obtain ⟨names, values, hstored, hvalue⟩ := hb
    exact ⟨names, values, hspares.stores 0 _ (hkept hstored) hstored, hvalue⟩
  have hkeeps : M.Keeps M' :=
    hspares.keeps fun place object hplace hstored => absurd hplace (hkept hstored)
  refine ⟨fun entry hm => ?_, ?_, ?_, hspares.support.trans h.support,
    fun type hm => hbinds (h.types type hm), fun name hm => hbinds (h.functions name hm)⟩
  · obtain ⟨value, hb, hvalue⟩ := h.definitions entry hm
    exact ⟨value, hbinds hb, hvalue.mono hkeeps⟩
  · obtain ⟨place, hb, hstored⟩ := h.functools
    exact ⟨place, hbinds hb, hspares.stores place _ (hkept hstored) hstored⟩
  · rw [hspares.libraries _ (by rw [h.support]; decide +kernel), h.noPart]

end

end ToolBindings
