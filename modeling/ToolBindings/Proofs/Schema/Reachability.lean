import Mathlib.Logic.Relation
import ToolBindings.Proofs.Schema.Attachment
import ToolBindings.Proofs.Schema.Parts

/-!
# When a type has a schema

The expansion of a type stops at each type that it is in already. It fails nonetheless
on every mistake that can be reached from the type, and on no other.

* `Refers`, `IsSound`: the references between message types, and types without mistakes.
* `reach_outside`: what is reached from a type is reached without coming back to it.
* `isSound_of_ofType`: a type that is expanded has only sound types in reach.
* `exists_ofType_of_isSound`: a type that has only sound types in reach is expanded.
* `expansion_complete`: both together, for a type and for the inputs of tools.
-/
namespace ToolBindings.Schema
open Relation (ReflTransGen)

/-- A field of the message type `name` refers to the message type `target`. -/
def Refers (index : TypeIndex) (name target : String) : Prop :=
  ∃ message, index.find? name = some message ∧ ∃ field ∈ message.fields,
    ∃ spec, FieldSpec.ofField index (withoutDots name) field = .ok spec ∧
      spec.typeRef = .message target

/-- A message type that is known and whose fields are all accepted. -/
def IsSound (index : TypeIndex) (name : String) : Prop :=
  ∃ message, index.find? name = some message ∧ ∀ field ∈ message.fields,
    ∃ spec, FieldSpec.ofField index (withoutDots name) field = .ok spec

/-- A reference to a type that is not to be entered again. -/
def RefersOutside (index : TypeIndex) (active : List String) (name target : String) : Prop :=
  Refers index name target ∧ target ∉ active

section
variable {index : TypeIndex} {active : List String} {name target : String}

/-- What is reached from a type is reached from one of its references without coming back to the
type. -/
theorem reach_outside (h : ReflTransGen (RefersOutside index active) name target) :
    name = target ∨ ∃ next, Refers index name next ∧ next ∉ name :: active ∧
      ReflTransGen (RefersOutside index (name :: active)) next target := by
  induction h with
  | refl => exact .inl rfl
  | @tail middle last _ hstep ih =>
    obtain ⟨href, ha⟩ := hstep
    by_cases hback : last = name
    · exact .inl hback.symm
    have hout : last ∉ name :: active := by
      rw [List.mem_cons, not_or]
      exact ⟨hback, ha⟩
    rcases ih with rfl | ⟨next, hn, hna, hreach⟩
    · exact .inr ⟨last, href, hout, .refl⟩
    · exact .inr ⟨next, hn, hna, hreach.tail ⟨href, hout⟩⟩

theorem isSound_of_exists_ofType (h : ∃ node, (ofType index active name).result = .ok node) :
    IsSound index name := by
  obtain ⟨message, hf, hfields⟩ := exists_ofType.1 h
  refine ⟨message, hf, fun field hm => ?_⟩
  obtain ⟨spec, hs, -⟩ := hfields field hm
  exact ⟨spec, hs⟩

/-- A reference from an expanded type is expanded in turn, unless its expansion is under way. -/
theorem exists_ofType_of_refers (h : ∃ node, (ofType index active name).result = .ok node)
    (href : Refers index name target) (ht : target ∉ name :: active) :
    ∃ node, (ofType index (name :: active) target).result = .ok node := by
  obtain ⟨message, hf, hfields⟩ := exists_ofType.1 h
  obtain ⟨_, hf', field, hm, spec, hs, hr⟩ := href
  rw [hf] at hf'
  cases hf'
  obtain ⟨_, hs', hnext⟩ := hfields field hm
  rw [hs] at hs'
  cases hs'
  exact hnext target hr ht

/-- All that is reached from an expanded type without entering a type whose expansion is under way
is sound. The induction is on the number of types that can still be entered. -/
theorem isSound_of_ofType (ha : name ∉ active)
    (h : ∃ node, (ofType index active name).result = .ok node)
    (hreach : ReflTransGen (RefersOutside index active) name target) : IsSound index target := by
  induction hn : unexpanded index active using Nat.strongRecOn generalizing active name with
  | _ n ih =>
    subst hn
    have hsound := isSound_of_exists_ofType h
    rcases reach_outside hreach with rfl | ⟨next, href, hnext, hreach'⟩
    · exact hsound
    · obtain ⟨message, hf, -⟩ := hsound
      have hlt := unexpanded_cons_lt (TypeIndex.mem_names_of_find hf) ha
      exact ih _ hlt hnext (exists_ofType_of_refers h href hnext) hreach' rfl

/-- A type that has only sound types in reach is expanded, whatever else is being expanded. -/
theorem exists_ofType_of_isSound (ha : name ∉ active)
    (h : ∀ target, ReflTransGen (Refers index) name target → IsSound index target) :
    ∃ node, (ofType index active name).result = .ok node := by
  induction hn : unexpanded index active using Nat.strongRecOn generalizing active name with
  | _ n ih =>
    subst hn
    obtain ⟨message, hf, hfields⟩ := h name .refl
    have hlt := unexpanded_cons_lt (TypeIndex.mem_names_of_find hf) ha
    refine exists_ofType.2 ⟨message, hf, fun field hm => ?_⟩
    obtain ⟨spec, hs⟩ := hfields field hm
    refine ⟨spec, hs, fun next hr hnext => ?_⟩
    have href : Refers index name next := ⟨message, hf, field, hm, spec, hs, hr⟩
    exact ih _ hlt hnext (fun target hreach => h target (hreach.head href)) rfl

theorem exists_ofType_nil :
    (∃ node, (ofType index [] name).result = .ok node) ↔
      ∀ target, ReflTransGen (Refers index) name target → IsSound index target := by
  constructor
  · intro h target hreach
    have hout : ∀ a b, Refers index a b → RefersOutside index [] a b :=
      fun _ _ href => ⟨href, List.not_mem_nil⟩
    exact isSound_of_ofType List.not_mem_nil h (ReflTransGen.mono hout _ _ hreach)
  · exact exists_ofType_of_isSound List.not_mem_nil

theorem exists_withSchemas {tools : List Tool} :
    (∃ complete, (withSchemas index tools).result = .ok complete) ↔
      ∀ tool ∈ tools, ∃ node, (ofType index [] tool.inputType).result = .ok node := by
  simp only [withSchemas_eq_ok, exists_forall₂]
  refine forall₂_congr fun tool _ => ?_
  constructor
  · intro h
    obtain ⟨_, node, hn, -⟩ := h
    exact ⟨node, hn⟩
  · intro h
    obtain ⟨node, hn⟩ := h
    exact ⟨_, node, hn, rfl⟩

end

/-- A type has a schema exactly if all types in its reach are sound, and tools get the schemas of
their inputs exactly if this holds for the input of each. -/
theorem expansion_complete (index : TypeIndex) :
    (∀ name, (∃ node, (ofType index [] name).result = .ok node) ↔
      ∀ target, ReflTransGen (Refers index) name target → IsSound index target) ∧
    ∀ tools, (∃ complete, (withSchemas index tools).result = .ok complete) ↔
      ∀ tool ∈ tools, ∀ target, ReflTransGen (Refers index) tool.inputType target →
        IsSound index target := by
  refine ⟨fun name => exists_ofType_nil, fun tools => ?_⟩
  rw [exists_withSchemas]
  exact forall₂_congr fun tool _ => exists_ofType_nil

end ToolBindings.Schema
