import ToolBindings.Proofs.Entries
import ToolBindings.Proofs.Schema.Parts

/-!
# Down a schema

From the top of a schema one comes from node to node: to the properties of an object and
to the items of an array. What is inside a node is known without looking at it, from the
reference that it was made for and from the message types that were being expanded.

* `Node.Holds`: a node directly inside another one.
* `Inside`, `Inside.Next`: what can be inside a node, and what can be further inside.
* `metadata_fieldNode`: the node of a field says what the field says of itself.
* `Inside.IsOf`: the node shows what is said to be inside it.
* `next_of_holds`: each step down a schema is a step further inside.
-/
namespace ToolBindings.Schema

/-! ## Nodes in nodes -/

namespace Node

/-- The node without what a field says of itself. -/
def bare (node : Node) : Node := { node with description := "", sample := "" }

/-- A node is directly inside another one: it stands for a property or for the items. -/
inductive Holds (node : Node) : Node → Prop where
  | property {properties : List (String × Node)} {name : String} {child : Node}
    (hp : node.properties = some properties) (hm : (name, child) ∈ properties) : Holds node child
  | items {child : Node} (hi : node.items = some child) : Holds node child

end Node

/-- The node for a value that is not looked into. -/
def closedNode : TypeRef → Node
  | .object | .message _ => .opaqueObject
  | .scalar type => .scalar type "" ""

/-! ## What is inside a node -/

/-- What is inside a node of a schema. -/
inductive Inside where
  /-- The fields of a message type, expanded while the types in `active` are being expanded. -/
  | fields (active : List String) (type : String)
  /-- The items of a list, described while the types in `active` are being expanded. -/
  | items (active : List String) (ref : TypeRef)
  /-- Nothing: the value that the reference stands for is not looked into. -/
  | closed (ref : TypeRef)

namespace Inside

/-- What is inside the node for a value. A message type is expanded unless it is being expanded
already. -/
def ofRef (active : List String) : TypeRef → Inside
  | .message target => if target ∈ active then closed (.message target) else fields active target
  | ref => closed ref

/-- What is inside the node of a field. A map shows what its values hold. -/
def ofSpec (active : List String) (spec : FieldSpec) : Inside :=
  match spec.kind, spec.typeRef with
  | .repeated, ref => items active ref
  | .map, .scalar _ => closed .object
  | _, ref => ofRef active ref

/-- One step further inside: to the node of a field, or to that of the items. -/
inductive Next (index : TypeIndex) : Inside → Inside → Prop where
  | field {active : List String} {type : String} {message : Message} {field : Field}
    {spec : FieldSpec} (hm : index.find? type = some message) (hf : field ∈ message.fields)
    (hs : FieldSpec.ofField index (withoutDots type) field = .ok spec) :
    Next index (fields active type) (ofSpec (type :: active) spec)
  | items {active : List String} {ref : TypeRef} :
    Next index (items active ref) (ofRef active ref)

/-- The node shows what is said to be inside it. -/
def IsOf (index : TypeIndex) (node : Node) : Inside → Prop
  | fields active type => (ofType index active type).result = .ok node.bare
  | items active ref => ∃ value, Stands index active ref value ∧ node.bare = .array value "" ""
  | closed ref => node.bare = closedNode ref

end Inside

section
variable {index : TypeIndex} {active : List String} {name : String} {ref : TypeRef}
  {spec : FieldSpec} {node other value child root : Node} {inside : Inside}

/-! ## The inside of a node that was made for a reference -/

theorem bare_of_ofType (h : (ofType index active name).result = .ok root) : root.bare = root := by
  obtain ⟨_, _, -, -, rfl⟩ := ofType_eq_ok.1 h
  rfl

/-- A node for values says nothing of a field. -/
theorem bare_of_stands (h : Stands index active ref value) : value.bare = value := by
  cases h with
  | object => rfl
  | scalar type => rfl
  | truncated _ => rfl
  | expanded _ hn => exact bare_of_ofType hn

theorem isOf_congr (h : node.bare = other.bare) :
    inside.IsOf index node ↔ inside.IsOf index other := by
  cases inside <;> simp only [Inside.IsOf, h]

theorem isOf_ofRef (h : Stands index active ref value) :
    (Inside.ofRef active ref).IsOf index value := by
  have hb := bare_of_stands h
  cases h with
  | object => exact hb
  | scalar type => exact hb
  | truncated ht => rw [Inside.ofRef, if_pos ht]; exact hb
  | expanded ht hn => rw [Inside.ofRef, if_neg ht, Inside.IsOf, hb]; exact hn

/-- The node of a field, apart from what the field says of itself. -/
theorem bare_fieldNode (spec : FieldSpec) (h : Stands index active ref value) :
    (fieldNode spec value).bare =
      match spec.kind, ref with
      | .repeated, _ => .array value "" ""
      | .map, .scalar _ => .opaqueObject
      | _, _ => value := by
  have hb := bare_of_stands h
  unfold fieldNode
  cases hk : spec.kind with
  | «repeated» => rfl
  | scalar => exact hb
  | message => exact hb
  | map =>
    cases h with
    | object => rfl
    | scalar type => simp only; split <;> rfl
    | truncated _ => rfl
    | expanded _ hn =>
      obtain ⟨_, _, -, -, rfl⟩ := ofType_eq_ok.1 hn
      rfl

/-- The node of a field says what the field says of itself, and nothing of its values. -/
theorem metadata_fieldNode (spec : FieldSpec) (h : Stands index active ref value) :
    (fieldNode spec value).description = spec.description ∧
      (fieldNode spec value).sample = spec.sample := by
  have hdescription : value.description = "" := congrArg Node.description (bare_of_stands h).symm
  have hsample : value.sample = "" := congrArg Node.sample (bare_of_stands h).symm
  have hdescribed : (value.described spec.description spec.sample).description = spec.description ∧
      (value.described spec.description spec.sample).sample = spec.sample := by
    unfold Node.described
    rw [hdescription, hsample]
    exact ⟨ite_eq_right_iff.2 Eq.symm, ite_eq_right_iff.2 Eq.symm⟩
  unfold fieldNode
  cases spec.kind with
  | «repeated» => exact ⟨rfl, rfl⟩
  | map => simp only; split <;> exact ⟨rfl, rfl⟩
  | scalar => exact hdescribed
  | message => exact hdescribed

theorem isOf_ofSpec (h : Stands index active spec.typeRef value) :
    (Inside.ofSpec active spec).IsOf index (fieldNode spec value) := by
  have hb := bare_fieldNode spec h
  have hv := isOf_ofRef h
  have hsame : value.bare = value := bare_of_stands h
  unfold Inside.ofSpec
  generalize spec.typeRef = ref at *
  cases hk : spec.kind with
  | «repeated» =>
    rw [hk] at hb
    exact ⟨value, h, hb⟩
  | scalar =>
    rw [hk] at hb
    exact (isOf_congr (hb.trans hsame.symm)).2 hv
  | message =>
    rw [hk] at hb
    exact (isOf_congr (hb.trans hsame.symm)).2 hv
  | map =>
    rw [hk] at hb
    cases ref with
    | scalar type => exact hb
    | object => exact (isOf_congr (hb.trans hsame.symm)).2 hv
    | message target => exact (isOf_congr (hb.trans hsame.symm)).2 hv

/-! ## One step -/

theorem holds_bare : node.bare.Holds child ↔ node.Holds child := by
  constructor <;> intro h <;> cases h with
  | property hp hm => exact .property hp hm
  | items hi => exact .items hi

theorem not_holds_closedNode : ¬(closedNode ref).Holds child := by
  intro h
  cases h with
  | property hp hm =>
    cases ref with
    | object => cases hp; cases hm
    | message target => cases hp; cases hm
    | scalar type => cases hp
  | items hi => cases ref <;> cases hi

/-- What is directly inside a node is one step further inside. -/
theorem next_of_holds (h : inside.IsOf index node) (hc : node.Holds child) :
    ∃ next, Inside.Next index inside next ∧ next.IsOf index child := by
  rw [← holds_bare] at hc
  cases inside with
  | fields active type =>
    obtain ⟨message, parts, hm, hparts, hb⟩ := ofType_eq_ok.1 h
    rw [hb] at hc
    cases hc with
    | property hp hchild =>
      cases hp
      obtain ⟨part, hpart, he⟩ := List.mem_map.1 (Entries.mem_of_mem_ofPairs hchild)
      cases he
      obtain ⟨field, hf, hs, value, hv, hn⟩ := exists_of_forall₂ hparts.flip hpart
      exact ⟨_, .field hm hf hs, hn ▸ isOf_ofSpec hv⟩
    | items hi => cases hi
  | items active ref =>
    obtain ⟨value, hv, hb⟩ := h
    rw [hb] at hc
    cases hc with
    | property hp _ => cases hp
    | items hi => cases hi; exact ⟨_, .items, isOf_ofRef hv⟩
  | closed ref =>
    have hb : node.bare = closedNode ref := h
    rw [hb] at hc
    exact absurd hc not_holds_closedNode

/-- The fields of a message type are inside its schema. -/
theorem isOf_fields (h : (ofType index active name).result = .ok root) :
    (Inside.fields active name).IsOf index root := by
  rw [Inside.IsOf, bare_of_ofType h]
  exact h

end

end ToolBindings.Schema
