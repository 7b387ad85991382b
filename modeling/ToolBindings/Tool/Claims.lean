import ToolBindings.Entries
import ToolBindings.Failure
/-!
# Claimed tool names

The tool names in use, each with the label of the method that has it, in the order in
which they were claimed.
-/
namespace ToolBindings

/-- Claimed names with their holders. -/
abbrev Claims := Entries String String

/-- Claims a name behind all others, unless it has a holder. -/
def Claims.claim (claims : Claims) (name claimant : String) : Except NameConflict Claims :=
  match claims.lookup name with
  | some holder => .error { name, holder, claimant }
  | none => .ok (claims ++ [(name, claimant)])

/-- A claim succeeds exactly on names without a holder, and then nothing else changes. -/
theorem Claims.claim_eq_ok_iff {claims later : Claims} {name claimant : String} :
    claims.claim name claimant = .ok later ↔
      claims.lookup name = none ∧ later = claims ++ [(name, claimant)] := by
  unfold Claims.claim
  split
  · next h => simp [h]
  · next h => simp [h, eq_comm]

end ToolBindings
