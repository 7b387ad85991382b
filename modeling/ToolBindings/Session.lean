import ToolBindings.Generation
/-!
# Sessions

The claims of a session outlast its steps: names are claimed one by one, and the tools of
files are found and written under the claims of the steps before, also of steps that failed.

* `Step.run` takes one step, and `claimsAfter` are the claims after several.
-/
namespace ToolBindings

/-- The tools of a file, with their schemas if these are to be attached, and the claims
afterwards. -/
def File.toolsFor (file : File) (index : TypeIndex) (settings : Settings) (attach : Bool)
    (claims : Claims) : Claims × Logged (List Tool) :=
  if attach then file.toolsWithSchemas index settings claims
  else file.tools index settings claims

/-- A step of a session. -/
inductive Step where
  /-- Claims one name. -/
  | claim (name claimant : String)
  /-- Gives up all claims. -/
  | renew
  /-- Finds the tools of a file. -/
  | extract (file : File) (index : TypeIndex) (settings : Settings) (attach : Bool)
  /-- Writes the module for the tools of a file. -/
  | render (file : File) (index : TypeIndex) (settings : Settings) (attach : Bool)

/-- What a step that succeeds gives. -/
inductive Answer where
  | done
  | tools (tools : List Tool)
  | text (text : String)

/-- Takes a step. The claims afterwards hold whether the step succeeds or not. -/
def Step.run (claims : Claims) : Step → Claims × Except Failure Answer
  | claim name claimant =>
    match claims.claim name claimant with
    | .ok later => (later, .ok .done)
    | .error conflict => (claims, .error (.rejected (.conflict conflict)))
  | renew => ([], .ok .done)
  | extract file index settings attach =>
    let (later, tools) := file.toolsFor index settings attach claims
    (later, tools.result.map .tools)
  | render file index settings attach =>
    let (later, tools) := file.toolsFor index settings attach claims
    (later, (tools.result >>= moduleText file settings).map .text)

namespace Step

variable {claims : Claims} {name claimant holder : String}

@[simp] theorem run_claim_of_free (h : claims.lookup name = none) :
    (claim name claimant).run claims = (claims ++ [(name, claimant)], .ok .done) := by
  rw [run, Claims.claim_eq_ok_iff.2 ⟨h, rfl⟩]

@[simp] theorem run_claim_of_held (h : claims.lookup name = some holder) :
    (claim name claimant).run claims =
      (claims, .error (.rejected (.conflict { kind := .toolName, name, holder, claimant }))) := by
  rw [run, Claims.claim, h]

variable {file : File} {index : TypeIndex} {settings : Settings} {attach : Bool}

@[simp] theorem run_extract :
    (extract file index settings attach).run claims =
      ((file.toolsFor index settings attach claims).1,
        (file.toolsFor index settings attach claims).2.result.map .tools) := rfl

@[simp] theorem run_render :
    (render file index settings attach).run claims =
      ((file.toolsFor index settings attach claims).1,
        ((file.toolsFor index settings attach claims).2.result >>= moduleText file settings).map
          .text) := rfl

end Step

/-- The claims after the steps of a session, which begins without any. -/
def claimsAfter (steps : List Step) : Claims :=
  steps.foldl (fun claims step => (step.run claims).1) []

end ToolBindings
