import Mathlib.Logic.Relation
import ToolBindings.Proofs.Schema.Descent
import ToolBindings.Proofs.Schema.Unfolding

/-!
# The form of the nodes of a schema

A node is an object, an array or a scalar, and has the parts that go with its form and
no others. This holds at every depth, also where a type is not expanded again and where a
map takes over what its values hold.

* `TypeRef.IsPlain`: references that lead to one of the three forms. Where message types
  are named in full, all references of fields are plain (`isPlain_of_ofField`).
* `Node.WellFormed`: the three forms.
* `wellFormed_of_isOf`: what is inside a node decides on its form.
* `wellFormed_of_holds`: each node of a schema, however deep, is well formed.
-/
namespace ToolBindings
open Relation (ReflTransGen)

/-! ## References -/

/-- The types of values without parts. -/
def scalarTypes : List String := ["string", "integer", "number", "boolean"]

/-- Each field that has a message type names it in full, with a leading dot. -/
def TypeIndex.HasFullNames (index : TypeIndex) : Prop :=
  ∀ name message, index.find? name = some message → ∀ field ∈ message.fields,
    field.type = .message → field.typeName.toList.head? = some '.'

/-- The reference is to a message type, to an object, or to a type without parts. -/
def TypeRef.IsPlain (ref : TypeRef) : Prop := ∀ type, ref = .scalar type → type ∈ scalarTypes

section
variable {index : TypeIndex} {owner : String} {field : Field} {ref : TypeRef} {spec : FieldSpec}

theorem jsonType_mem_scalarTypes {type : FieldType} {jsonType : String}
    (h : type.jsonType? = some jsonType) : jsonType ∈ scalarTypes := by
  cases type <;> cases h <;> decide

theorem isPlain_of_elementType (h : field.elementType owner = .ok ref)
    (hd : field.type = .message → field.typeName.toList.head? = some '.') : ref.IsPlain := by
  rintro type rfl
  unfold Field.elementType at h
  cases hj : field.type.jsonType? with
  | some jsonType =>
    rw [hj] at h
    cases h
    exact jsonType_mem_scalarTypes hj
  | none =>
    simp only [hj] at h
    split at h
    · next hm =>
      rw [Except.ok.injEq] at h
      obtain ⟨rfl, hobject, hdot⟩ := ofName_eq_scalar h
      cases hw : wellKnownTypes.lookup field.typeName with
      | none =>
        rw [hw, Option.getD_none] at hdot
        exact absurd (hd hm) hdot
      | some jsonType =>
        have hall : ∀ entry ∈ wellKnownTypes, entry.2 ≠ "object" → entry.2 ∈ scalarTypes := by
          decide
        obtain ⟨before, after, hl, -⟩ := List.lookup_eq_some_iff.1 hw
        rw [hw, Option.getD_some] at hobject
        exact hall (field.typeName, jsonType) (by rw [hl]; simp) hobject
    · cases h

theorem isPlain_of_ofField (hn : index.HasFullNames) {name : String} {message : Message}
    (hm : index.find? name = some message) (hf : field ∈ message.fields)
    (h : FieldSpec.ofField index owner field = .ok spec) : spec.typeRef.IsPlain := by
  obtain ⟨_, element, ht, he⟩ := elementType_of_ofField h
  refine isPlain_of_elementType ht ?_
  obtain rfl | ⟨name, entry, hentry, hmem⟩ := he
  · exact hn _ _ hm _ hf
  · exact hn _ _ hentry _ hmem

end

namespace Schema

/-! ## The three forms -/

/-- The names of the fields of a message type, in the order of their declaration; or none. -/
def Declares (index : TypeIndex) (names : List String) : Prop :=
  names = [] ∨ ∃ name message, index.find? name = some message ∧
    names = message.fields.map (·.name)

/-- Required names as an object with some properties has them: names of its properties, in the order
in which a message type declares its fields, and none twice if the fields have different names. -/
structure AreRequired (index : TypeIndex) (properties : List (String × Node))
    (required : List String) : Prop where
  among : ∀ name ∈ required, name ∈ properties.map (·.1)
  ordered : ∃ names, Declares index names ∧ required.Sublist names ∧
    (∀ name, name ∈ properties.map (·.1) ↔ name ∈ names) ∧
    (names.Nodup → required.Nodup ∧ properties.map (·.1) = names)

/-- The node has one of the three forms, with the parts that belong to the form. -/
inductive Node.WellFormed (index : TypeIndex) (node : Node) : Prop where
  | object {properties : List (String × Node)} {required : List String}
    (type : node.type = objectType) (hp : node.properties = some properties)
    (hr : node.required = some required) (names : AreRequired index properties required)
    (hi : node.items = none)
  | array {items : Node} (type : node.type = arrayType) (hi : node.items = some items)
    (inner : items.type ≠ arrayType) (hp : node.properties = none) (hr : node.required = none)
  | scalar (type : node.type ∈ scalarTypes) (hp : node.properties = none)
    (hi : node.items = none) (hr : node.required = none)

/-- What is inside a node has only plain references. -/
def Inside.IsPlain : Inside → Prop
  | fields _ _ => True
  | items _ ref | closed ref => ref.IsPlain

section
variable {index : TypeIndex} {active : List String} {owner name : String} {ref : TypeRef}
  {spec : FieldSpec} {node root value : Node} {inside next : Inside} {message : Message}
  {parts : List (FieldSpec × Node)}

theorem areRequired_nil : AreRequired index [] [] :=
  ⟨nofun, [], .inl rfl, .slnil, fun _ => Iff.rfl, fun _ => ⟨.nil, rfl⟩⟩

theorem areRequired_messageNode (hm : index.find? name = some message)
    (h : List.Forall₂ (Expands index active owner) message.fields parts) :
    AreRequired index (Entries.ofPairs (parts.map fun part => (part.1.name, part.2)))
      ((parts.filter (·.1.required)).map (·.1.name)) := by
  have hnames := names_of_parts h
  have hpairs : (parts.map fun part => (part.1.name, part.2)).map (·.1) =
      message.fields.map (·.name) := by
    rw [← hnames, List.map_map]
    rfl
  have hsub : ((parts.filter (·.1.required)).map (·.1.name)).Sublist
      (message.fields.map (·.name)) := by
    rw [← hnames]
    exact List.filter_sublist.map _
  have hkeys : ∀ name, name ∈ (Entries.ofPairs
      (parts.map fun part => (part.1.name, part.2))).map (·.1) ↔
        name ∈ message.fields.map (·.name) := by
    intro name
    rw [Entries.mem_keys_ofPairs, hpairs]
  refine ⟨fun name hr => (hkeys name).2 (hsub.subset hr),
    _, .inr ⟨name, message, hm, rfl⟩, hsub, hkeys, fun hd => ⟨hd.sublist hsub, ?_⟩⟩
  rw [Entries.ofPairs_of_nodup (hpairs ▸ hd), hpairs]

theorem isPlain_ofRef (h : ref.IsPlain) : (Inside.ofRef active ref).IsPlain := by
  cases ref with
  | object => exact h
  | scalar type => exact h
  | message target =>
    by_cases ht : target ∈ active
    · rw [Inside.ofRef, if_pos ht]; exact h
    · rw [Inside.ofRef, if_neg ht]; trivial

theorem isPlain_of_next (hn : index.HasFullNames) (h : Inside.Next index inside next)
    (hp : inside.IsPlain) : next.IsPlain := by
  cases h with
  | field hm hf hs =>
    have hplain := isPlain_of_ofField hn hm hf hs
    unfold Inside.ofSpec
    split
    · exact hplain
    · exact nofun
    · exact isPlain_ofRef hplain
  | items => exact isPlain_ofRef hp

theorem type_of_stands_ne (h : Stands index active ref value) (hp : ref.IsPlain) :
    value.type ≠ arrayType := by
  have hobject : objectType ≠ arrayType := by decide
  rw [(items_of_stands h).2]
  cases ref with
  | object => exact hobject
  | message target => exact hobject
  | scalar type =>
    rintro rfl
    exact absurd (hp _ rfl) (by decide)

/-- What is inside a node decides on its form. -/
theorem wellFormed_of_isOf (h : inside.IsOf index node) (hp : inside.IsPlain) :
    node.WellFormed index := by
  have hparts : ∀ {other : Node}, node.bare = other → node.type = other.type ∧
      node.properties = other.properties ∧ node.items = other.items ∧
      node.required = other.required := by
    rintro _ rfl
    exact ⟨rfl, rfl, rfl, rfl⟩
  cases inside with
  | fields active type =>
    obtain ⟨message, parts, hm, hexpands, hb⟩ := ofType_eq_ok.1 h
    obtain ⟨ht, hprops, hi, hr⟩ := hparts hb
    exact .object ht hprops hr (areRequired_messageNode hm hexpands) hi
  | items active ref =>
    obtain ⟨value, hv, hb⟩ := h
    obtain ⟨ht, hprops, hi, hr⟩ := hparts hb
    exact .array ht hi (type_of_stands_ne hv hp) hprops hr
  | closed ref =>
    obtain ⟨ht, hprops, hi, hr⟩ := hparts h
    cases ref with
    | object => exact .object ht hprops hr areRequired_nil hi
    | message target => exact .object ht hprops hr areRequired_nil hi
    | scalar type => exact .scalar (ht ▸ hp type rfl) hprops hi hr

/-- Each node on the way down from a well-described node is described as well. -/
theorem exists_inside (hn : index.HasFullNames) (h : (ofType index active name).result = .ok root)
    (hr : ReflTransGen Node.Holds root node) :
    ∃ inside : Inside, inside.IsOf index node ∧ inside.IsPlain := by
  induction hr with
  | refl => exact ⟨_, isOf_fields h, trivial⟩
  | tail _ hstep ih =>
    obtain ⟨inside, hi, hp⟩ := ih
    obtain ⟨next, hnext, hchild⟩ := next_of_holds hi hstep
    exact ⟨next, hchild, isPlain_of_next hn hnext hp⟩

end

/-- Where message types are named in full, each node of a schema is well formed, however deep. -/
theorem wellFormed_of_holds {index : TypeIndex} {active : List String} {name : String}
    {root node : Node} (hn : index.HasFullNames)
    (h : (ofType index active name).result = .ok root)
    (hr : ReflTransGen Node.Holds root node) : node.WellFormed index := by
  obtain ⟨inside, hi, hp⟩ := exists_inside hn h hr
  exact wellFormed_of_isOf hi hp

theorem wellFormed_of_holds_tree : ∃ root, (ofType treeIndex [] ".Tree").result = .ok root ∧
    ∀ node, ReflTransGen Node.Holds root node → node.WellFormed treeIndex := by
  have hn : treeIndex.HasFullNames := by
    have hall : ∀ entry ∈ treeIndex.entries, ∀ field ∈ entry.2.fields,
        field.type = .message → field.typeName.toList.head? = some '.' := by decide
    exact fun name message h => hall _ (TypeIndex.mem_entries_of_find h)
  have h : (ofType treeIndex [] ".Tree").result.toOption.isSome := by decide +kernel
  obtain ⟨root, hroot⟩ := exists_eq_ok_of_isSome h
  exact ⟨root, hroot, fun node hr => wellFormed_of_holds hn hroot hr⟩

end Schema

end ToolBindings
