import ToolBindings.Descriptor.Reading
import ToolBindings.Descriptor.Writing
import ToolBindings.Generation
import ToolBindings.Journal.Threshold
/-!
# The command line

The generator as the compiler runs it: a request comes in as octets, an answer goes out
as octets, and the log goes beside them. The log threshold is read before the request.
-/
namespace ToolBindings

/-- How a run ends without an answer. -/
inductive Abort where
  /-- The log threshold has the form of a number and is none. -/
  | badThreshold
  /-- The request, or metadata in it, is malformed. -/
  | malformed
  /-- Options in the request lack a part that they must have. -/
  | incomplete
deriving DecidableEq, Repr

/-- What a run leaves behind. -/
structure Outcome where
  log : String
  /-- The octets of the answer. -/
  answer : Except Abort Octets

/-- A run on the octets of a request, with the user's choice of log threshold; no choice
is the same as an empty one. -/
def run (thresholdChoice : Option String) (octets : Octets) : Outcome :=
  match Journal.threshold? (thresholdChoice.getD "") with
  | none => { log := "", answer := .error .badThreshold }
  | some threshold =>
    match Request.ofOctets? octets with
    | none => { log := "", answer := .error .malformed }
    | some request =>
      let response := generate request none
      { log := Event.log threshold response.events
        answer := match response.result with
          | .ok response => .ok response.toOctets
          | .error .incomplete => .error .incomplete
          | .error _ => .error .malformed }

end ToolBindings
