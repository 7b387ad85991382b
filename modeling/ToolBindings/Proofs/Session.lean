import Mathlib.Data.List.Induction
import ToolBindings.Proofs.Tool.Residue
import ToolBindings.Session

/-!
# The claims of a session

Claims are a log: a step writes behind what earlier steps have written, or gives up all of it.
What it writes is known from its file alone, also if it fails.

* `Step.Effect`: what a step does to the claims, with the conflicts that it can end in.
* `Step.effect_run`: one step.
* `Step.nodup_run`, `nodup_claimsAfter`: no name is claimed twice, after one step and after all.
* `claimsAfter_append_singleton`: every step of every session.
-/
namespace ToolBindings

namespace Step

variable {claims later : Claims} {answer : Except Failure Answer}

/-- The file whose tools a step is about, with the types and the settings. -/
def subject? : Step → Option (File × TypeIndex × Settings)
  | extract file index settings _ | render file index settings _ => some (file, index, settings)
  | claim _ _ | renew => none

/-- What a step does. A step about a file claims the names of the tools that come before the first
method that fails, whatever follows. If it ends in a conflict, the holder is a method that has the
name by then: for a tool name the one that claimed it, for a constant an earlier one of the file. -/
inductive Effect (claims : Claims) : Step → Claims → Except Failure Answer → Prop where
  | claimed {name claimant : String} (hfree : claims.lookup name = none) :
    Effect claims (claim name claimant) (claims ++ [(name, claimant)]) (.ok .done)
  | refused {name claimant holder : String} (hholder : claims.lookup name = some holder) :
    Effect claims (claim name claimant) claims
      (.error (.rejected (.conflict { kind := .toolName, name, holder, claimant })))
  | renewed : Effect claims renew [] (.ok .done)
  | walked {step : Step} {file : File} {index : TypeIndex} {settings : Settings}
    {before rest : List (String × Method)} {answer : Except Failure Answer}
    (hstep : step.subject? = some (file, index, settings))
    (hmethods : file.methods = before ++ rest)
    (hreaches : Reaches file index settings claims [] before rest)
    (hfails : rest ≠ [] → ∃ failure, answer = .error failure)
    (hconflict : ∀ conflict, answer = .error (.rejected (.conflict conflict)) →
      ∃ declared ∈ rest.head?,
        Collides file (claims ++ file.claimsOf before) (file.constantsOf before) declared
          conflict) :
    Effect claims step (claims ++ file.claimsOf before) answer

/-! ## One step -/

/-- What is done with the tools of a file does not change what the walk has claimed, and does not
add conflicts. -/
theorem effect_of_tools {step : Step} {file : File} {index : TypeIndex} {settings : Settings}
    (after : List Tool → Except Failure Answer)
    (hstep : step.subject? = some (file, index, settings))
    (hlater : later = (file.tools index settings claims).1)
    (hanswer : answer = (file.tools index settings claims).2.result >>= after)
    (hafter : ∀ tools, NoConflict (after tools)) : Effect claims step later answer := by
  obtain ⟨before, rest, hmethods, hreaches, hclaims, hfails, hconflict⟩ :=
    toolsAmong_residue file index settings claims [] file.methods
  unfold File.tools at hlater hanswer
  rw [hlater, hclaims]
  refine .walked hstep hmethods hreaches ?_ ?_
  · intro hrest
    obtain ⟨failure, hf⟩ := hfails.1 hrest
    exact ⟨failure, by rw [hanswer, hf, error_bind]⟩
  · intro conflict hc
    rw [hanswer, bind_eq_error] at hc
    obtain hc | ⟨tools, -, hc⟩ := hc
    · rw [List.append_nil] at hconflict
      exact hconflict conflict hc
    · exact absurd hc (hafter tools conflict)

theorem claims_toolsFor (file : File) (index : TypeIndex) (settings : Settings) (attach : Bool)
    (claims : Claims) :
    (file.toolsFor index settings attach claims).1 = (file.tools index settings claims).1 := by
  cases attach <;> rfl

/-- The tools of a file, with or without their schemas, are found by the walk first. -/
theorem result_toolsFor (file : File) (index : TypeIndex) (settings : Settings) (attach : Bool)
    (claims : Claims) :
    (file.toolsFor index settings attach claims).2.result =
      (file.tools index settings claims).2.result >>= fun tools =>
        if attach then (withSchemas index tools).result else .ok tools := by
  cases attach with
  | true => exact Logged.result_bind _ _
  | false => cases h : (file.tools index settings claims).2.result <;> exact h

theorem noConflict_attach (index : TypeIndex) (attach : Bool) (tools : List Tool) :
    NoConflict (if attach then (withSchemas index tools).result else .ok tools) := by
  split
  · exact noConflict_withSchemas index tools
  · exact noConflict_ok tools

theorem effect_run (claims : Claims) (step : Step) :
    Effect claims step (step.run claims).1 (step.run claims).2 := by
  cases step with
  | claim name claimant =>
    cases hl : claims.lookup name with
    | none => rw [run_claim_of_free hl]; exact .claimed hl
    | some holder => rw [run_claim_of_held hl]; exact .refused hl
  | renew => exact .renewed
  | extract file index settings attach =>
    refine effect_of_tools
      (fun tools => (if attach then (withSchemas index tools).result else .ok tools).map .tools)
      rfl (claims_toolsFor file index settings attach claims) ?_
      fun tools => noConflict_map (noConflict_attach index attach tools)
    rw [run_extract, result_toolsFor]
    cases (file.tools index settings claims).2.result <;> rfl
  | render file index settings attach =>
    refine effect_of_tools
      (fun tools => ((if attach then (withSchemas index tools).result else .ok tools) >>=
        moduleText file settings).map .text)
      rfl (claims_toolsFor file index settings attach claims) ?_
      fun tools => noConflict_map (noConflict_bind (noConflict_attach index attach tools)
        fun tools _ => noConflict_moduleText file settings tools)
    rw [run_render, result_toolsFor]
    cases (file.tools index settings claims).2.result <;> rfl

/-- Earlier claims stay where they are. -/
theorem Effect.keeps_claims {step : Step} (h : Effect claims step later answer)
    (hstep : step ≠ .renew) : claims <+: later := by
  cases h with
  | claimed _ => exact List.prefix_append _ _
  | refused _ => exact List.prefix_rfl
  | renewed => exact absurd rfl hstep
  | walked _ _ _ _ _ => exact List.prefix_append _ _

theorem nodup_run (step : Step) (h : (claims.map (·.1)).Nodup) :
    ((step.run claims).1.map (·.1)).Nodup := by
  have htools : ∀ (file : File) (index : TypeIndex) (settings : Settings) (attach : Bool),
      ((file.toolsFor index settings attach claims).1.map (·.1)).Nodup := by
    intro file index settings attach
    rw [claims_toolsFor]
    exact nodup_toolsAmong h
  cases step with
  | claim name claimant =>
    cases hl : claims.lookup name with
    | none => rw [run_claim_of_free hl]; exact nodup_keys_claim h hl
    | some holder => rw [run_claim_of_held hl]; exact h
  | renew => exact List.nodup_nil
  | extract file index settings attach => exact htools file index settings attach
  | render file index settings attach => exact htools file index settings attach

end Step

/-! ## Sessions -/

theorem claimsAfter_append (steps : List Step) (step : Step) :
    claimsAfter (steps ++ [step]) = (step.run (claimsAfter steps)).1 := by
  rw [claimsAfter, List.foldl_append]
  rfl

/-- The induction is on the steps, from the last one back. -/
theorem nodup_claimsAfter (steps : List Step) : ((claimsAfter steps).map (·.1)).Nodup := by
  induction steps using List.reverseRecOn with
  | nil => exact List.nodup_nil
  | append_singleton steps step ih =>
    rw [claimsAfter_append]
    exact step.nodup_run ih

/-- After every step of a session no name is claimed twice. A step keeps all earlier claims in their
places, unless it gives them up, and does with them what is known of it. -/
theorem claimsAfter_append_singleton (steps : List Step) (step : Step) :
    ((claimsAfter (steps ++ [step])).map (·.1)).Nodup ∧
      (step ≠ .renew → claimsAfter steps <+: claimsAfter (steps ++ [step])) ∧
      step.Effect (claimsAfter steps) (claimsAfter (steps ++ [step]))
        (step.run (claimsAfter steps)).2 := by
  refine ⟨nodup_claimsAfter _, ?_, ?_⟩
  · intro hstep
    rw [claimsAfter_append]
    exact (step.effect_run _).keeps_claims hstep
  · rw [claimsAfter_append]
    exact step.effect_run _

end ToolBindings
