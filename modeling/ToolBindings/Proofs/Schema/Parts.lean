import ToolBindings.Proofs.Entries
import ToolBindings.Proofs.Journal.Success
import ToolBindings.Proofs.Tool.Classification
import ToolBindings.Schema.Expansion

/-!
# The parts of a schema

The expansion of a message type, one level at a time. A level is known by what its
fields become, and each field by its specification and by the node of the type that
it refers to.

* `Stands`, `Expands`: what a reference and a field become while some types are being
  expanded.
* `ofType_eq_ok`: a type is expanded exactly if it is known and each field becomes a part.
* `exists_ofType`: only a type that is not being expanded already has to be expanded.
* `names_of_parts`, `properties_messageNode`, `lookup_of_part`, `part_of_mem`: the properties of a
  type's node.
* `propertyNodes_fieldNode`, `type_fieldNode`: the node of a field.
-/
namespace ToolBindings.Schema

/-! ## One level -/

section
variable {index : TypeIndex} {active : List String} {name : String}

/-- The node for the values of a reference while the types in `active` are being expanded. -/
inductive Stands (index : TypeIndex) (active : List String) : TypeRef → Node → Prop where
  | object : Stands index active .object .opaqueObject
  | scalar (type : String) : Stands index active (.scalar type) (.scalar type "" "")
  | truncated {target : String} (h : target ∈ active) :
    Stands index active (.message target) .opaqueObject
  | expanded {target : String} {node : Node} (h : target ∉ active)
    (hn : (ofType index active target).result = .ok node) :
    Stands index active (.message target) node

theorem valueNode_eq_ok {ref : TypeRef} {value : Node} :
    (valueNode index active ref).result = .ok value ↔ Stands index active ref value := by
  cases ref with
  | object =>
    constructor
    · intro h; cases h; exact .object
    · intro h; cases h; rfl
  | scalar type =>
    constructor
    · intro h; cases h; exact .scalar type
    · intro h; cases h; rfl
  | message target =>
    by_cases ht : target ∈ active
    · have hr : (valueNode index active (.message target)).result = .ok .opaqueObject := by
        simp only [valueNode, if_pos ht]; rfl
      rw [hr]
      constructor
      · intro h; cases h; exact .truncated ht
      · intro h
        cases h with
        | truncated _ => rfl
        | expanded hn _ => exact absurd ht hn
    · have hr : valueNode index active (.message target) = ofType index active target := by
        simp only [valueNode, if_neg ht]
      rw [hr]
      constructor
      · intro h; exact .expanded ht h
      · intro h
        cases h with
        | truncated hm => exact absurd hm ht
        | expanded _ hn => exact hn

/-- A reference has a node exactly if the type that it names has one, unless that type is being
expanded already. -/
theorem exists_stands {ref : TypeRef} :
    (∃ value, Stands index active ref value) ↔
      ∀ target, ref = .message target → target ∉ active →
        ∃ node, (ofType index active target).result = .ok node := by
  constructor
  · rintro ⟨value, hv⟩ target rfl ha
    cases hv with
    | truncated hm => exact absurd hm ha
    | expanded _ hn => exact ⟨value, hn⟩
  · intro h
    cases ref with
    | object => exact ⟨_, .object⟩
    | scalar type => exact ⟨_, .scalar type⟩
    | message target =>
      by_cases ha : target ∈ active
      · exact ⟨_, .truncated ha⟩
      · obtain ⟨node, hn⟩ := h target rfl ha
        exact ⟨node, .expanded ha hn⟩

/-- What a field of the message type `owner` becomes while the types in `active` are being
expanded. -/
def Expands (index : TypeIndex) (active : List String) (owner : String) (field : Field)
    (part : FieldSpec × Node) : Prop :=
  FieldSpec.ofField index owner field = .ok part.1 ∧
    ∃ value, Stands index active part.1.typeRef value ∧ part.2 = fieldNode part.1 value

theorem expandFields_eq_ok {owner : String} {fields : List Field}
    {parts : List (FieldSpec × Node)} :
    (expandFields index active owner fields).result = .ok parts ↔
      List.Forall₂ (Expands index active owner) fields parts := by
  induction fields generalizing parts with
  | nil =>
    rw [expandFields_nil, Logged.result_pure, Except.ok.injEq, List.forall₂_nil_left_iff, eq_comm]
  | cons field rest ih =>
    simp only [expandFields_cons, Logged.result_bind, Logged.result_ofExcept, bind_eq_ok,
      Logged.result_pure, Except.ok.injEq, List.forall₂_cons_left_iff, ih, valueNode_eq_ok]
    constructor
    · intro h
      obtain ⟨spec, hs, value, hv, others, ho, rfl⟩ := h
      exact ⟨_, others, ⟨hs, value, hv, rfl⟩, ho, rfl⟩
    · intro h
      obtain ⟨⟨spec, node⟩, others, ⟨hs, value, hv, hn⟩, ho, rfl⟩ := h
      exact ⟨spec, hs, value, hv, others, ho, by rw [← hn]⟩

/-- A message type is expanded exactly if it is known and each of its fields becomes a part, with
the type itself among those being expanded. -/
theorem ofType_eq_ok {node : Node} :
    (ofType index active name).result = .ok node ↔
      ∃ message parts, index.find? name = some message ∧
        List.Forall₂ (Expands index (name :: active) (withoutDots name)) message.fields parts ∧
        node = messageNode parts := by
  unfold ofType
  rw [Logged.result_bind, Logged.result_ofExcept, bind_eq_ok]
  simp only [resolve_eq_ok, Logged.result_map, map_eq_ok, expandFields_eq_ok,
    eq_comm (a := node)]
  constructor
  · intro h
    obtain ⟨message, hf, parts, hp, h⟩ := h
    exact ⟨message, parts, hf, hp, h⟩
  · intro h
    obtain ⟨message, parts, hf, hp, h⟩ := h
    exact ⟨message, hf, parts, hp, h⟩

theorem exists_expands {owner : String} {field : Field} :
    (∃ part, Expands index active owner field part) ↔
      ∃ spec, FieldSpec.ofField index owner field = .ok spec ∧
        ∀ target, spec.typeRef = .message target → target ∉ active →
          ∃ node, (ofType index active target).result = .ok node := by
  constructor
  · intro h
    obtain ⟨⟨spec, _⟩, hs, value, hv, -⟩ := h
    exact ⟨spec, hs, exists_stands.1 ⟨value, hv⟩⟩
  · intro h
    obtain ⟨spec, hs, h⟩ := h
    obtain ⟨value, hv⟩ := exists_stands.2 h
    exact ⟨(spec, fieldNode spec value), hs, value, hv, rfl⟩

/-- Success of one level of the expansion by success of the next. -/
theorem exists_ofType :
    (∃ node, (ofType index active name).result = .ok node) ↔
      ∃ message, index.find? name = some message ∧ ∀ field ∈ message.fields,
        ∃ spec, FieldSpec.ofField index (withoutDots name) field = .ok spec ∧
          ∀ target, spec.typeRef = .message target → target ∉ name :: active →
            ∃ node, (ofType index (name :: active) target).result = .ok node := by
  simp only [← exists_expands, ← exists_forall₂]
  constructor
  · intro h
    obtain ⟨_, hn⟩ := h
    obtain ⟨message, parts, hf, hp, -⟩ := ofType_eq_ok.1 hn
    exact ⟨message, hf, parts, hp⟩
  · intro h
    obtain ⟨message, hf, parts, hp⟩ := h
    exact ⟨_, ofType_eq_ok.2 ⟨message, parts, hf, hp, rfl⟩⟩

end

/-! ## The node of a message type -/

section
variable {index : TypeIndex} {active : List String} {owner : String} {field : Field}
  {fields : List Field} {parts : List (FieldSpec × Node)}

theorem names_of_parts (h : List.Forall₂ (Expands index active owner) fields parts) :
    parts.map (·.1.name) = fields.map (·.name) := by
  rw [eq_comm, ← List.forall₂_eq_eq_eq, List.forall₂_map_left_iff, List.forall₂_map_right_iff]
  exact h.imp fun field part he => (name_of_ofField he.1).symm

/-- The properties of a type with different field names are its parts as they stand. -/
theorem properties_messageNode (h : List.Forall₂ (Expands index active owner) fields parts)
    (hd : (fields.map (·.name)).Nodup) :
    (messageNode parts).properties = some (parts.map fun part => (part.1.name, part.2)) := by
  refine congrArg some (Entries.ofPairs_of_nodup ?_)
  rw [List.map_map]
  exact names_of_parts h ▸ hd

/-- Where field names are different, each part is found under the name of its field. -/
theorem lookup_of_part (h : List.Forall₂ (Expands index active owner) fields parts)
    (hd : (fields.map (·.name)).Nodup) {part : FieldSpec × Node} (hm : part ∈ parts) :
    (parts.map fun part => (part.1.name, part.2)).lookup part.1.name = some part.2 := by
  refine Entries.lookup_of_mem ?_ (List.mem_map_of_mem hm)
  rw [List.map_map]
  exact names_of_parts h ▸ hd

theorem part_of_mem (h : List.Forall₂ (Expands index active owner) fields parts)
    (hd : (fields.map (·.name)).Nodup) (hm : field ∈ fields) :
    ∃ part ∈ parts, Expands index active owner field part ∧
      (parts.map fun part => (part.1.name, part.2)).lookup field.name = some part.2 := by
  obtain ⟨part, hpart, he⟩ := exists_of_forall₂ h hm
  refine ⟨part, hpart, he, ?_⟩
  rw [← name_of_ofField he.1]
  exact lookup_of_part h hd hpart

end

/-! ## The node of a field -/

namespace Node

/-- The properties of a node; those of an array are the properties of its items. -/
def propertyNodes (node : Node) : List (String × Node) :=
  (node.items.getD node).properties.getD []

end Node

section
variable {index : TypeIndex} {active : List String} {owner : String} {field : Field}
  {spec : FieldSpec} {value : Node}

theorem items_of_stands {ref : TypeRef} (h : Stands index active ref value) :
    value.items = none ∧ value.type = ref.nodeType := by
  cases h with
  | object => exact ⟨rfl, rfl⟩
  | scalar type => exact ⟨rfl, rfl⟩
  | truncated _ => exact ⟨rfl, rfl⟩
  | expanded _ hn =>
    obtain ⟨_, _, -, -, rfl⟩ := ofType_eq_ok.1 hn
    exact ⟨rfl, rfl⟩

theorem properties_of_stands {ref : TypeRef} (h : Stands index active ref value)
    (ho : value.isObject = false) : value.properties = none := by
  cases h with
  | object => cases ho
  | scalar type => rfl
  | truncated _ => cases ho
  | expanded _ hn =>
    obtain ⟨_, _, -, -, rfl⟩ := ofType_eq_ok.1 hn
    cases ho

/-- The node of a field has the properties of the node for its values. -/
theorem propertyNodes_fieldNode {ref : TypeRef} (h : Stands index active ref value) :
    (fieldNode spec value).propertyNodes = value.propertyNodes := by
  obtain ⟨hi, -⟩ := items_of_stands h
  have hv : value.propertyNodes = value.properties.getD [] := by
    rw [Node.propertyNodes, hi, Option.getD_none]
  unfold fieldNode
  split
  · rw [hv]; rfl
  · cases ho : value.isObject with
    | true => rw [hv]; rfl
    | false => rw [hv, properties_of_stands h ho]; rfl
  · unfold Node.propertyNodes Node.described; rw [hi]; rfl
  · unfold Node.propertyNodes Node.described; rw [hi]; rfl

theorem type_fieldNode (hs : FieldSpec.ofField index owner field = .ok spec)
    (hv : Stands index active spec.typeRef value) :
    (fieldNode spec value).type = field.nodeType index := by
  rcases kind_of_ofField hs with ⟨hk, ht⟩ | ⟨hk, ht⟩ | ⟨hk, ht⟩
  · rw [ht, fieldNode, hk]
    simp only
    split <;> rfl
  · rw [ht, fieldNode, hk]; rfl
  · rw [ht, ← (items_of_stands hv).2, fieldNode]
    rcases hk with hk | hk <;> rw [hk] <;> rfl

end

end ToolBindings.Schema
