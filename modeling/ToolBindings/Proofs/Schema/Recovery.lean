import ToolBindings.Proofs.Entries
import ToolBindings.Proofs.Literal.Unambiguous
import ToolBindings.Proofs.Schema.Dictionary
import ToolBindings.Proofs.Schema.Form

/-!
# A schema from its text

The literal of a schema leaves out what is empty, and the text of a literal is flat. Still nothing
is lost: each part of a schema, and that it is empty, can be told from its text.

* `Node.IsShaped`: the nodes that the builder makes, at every depth.
* `Node.under?`, `Node.under?_type`, …: what the literal of a schema has under each of its keys.
* `Node.toLiteral_inj`: schemas with the same literal are the same.
* `Node.isShaped_of_ofType`: the schemas of message types are shaped.
* `Node.eq_of_render`: schemas with the same text are the same.
-/
namespace ToolBindings.Schema

namespace Node

/-! ## Shape -/

/-- An object with properties and required names, an array with items, or a scalar without any of
these; and what is inside it likewise. -/
inductive IsShaped : Node → Prop where
  | object {properties : List (String × Node)} {required : List String}
    {description sample : String} (h : ∀ property ∈ properties, IsShaped property.2) :
    IsShaped (.object properties required description sample)
  | array {items : Node} {description sample : String} (h : IsShaped items) :
    IsShaped (.array items description sample)
  | scalar {type description sample : String} (hobject : type ≠ objectType)
    (harray : type ≠ arrayType) : IsShaped (.scalar type description sample)

section
variable {node items : Node} {properties : List (String × Node)} {required : List String}

theorem eq_object (ht : node.type = objectType) (hp : node.properties = some properties)
    (hr : node.required = some required) (hi : node.items = none) :
    node = .object properties required node.description node.sample := by
  cases node
  rw [object, ← ht, ← hp, ← hr, ← hi]

theorem eq_array (ht : node.type = arrayType) (hi : node.items = some items)
    (hp : node.properties = none) (hr : node.required = none) :
    node = .array items node.description node.sample := by
  cases node
  rw [array, ← ht, ← hi, ← hp, ← hr]

theorem eq_scalar (hp : node.properties = none) (hi : node.items = none)
    (hr : node.required = none) : node = .scalar node.type node.description node.sample := by
  cases node
  rw [scalar, ← hp, ← hi, ← hr]

end

/-! ## What stands under a key -/

/-- What a dictionary has under a key. -/
def under? (key : String) : Literal → Option Literal
  | .dict entries => entries.lookup key
  | _ => none

/-- A text that is left out if it is empty. -/
def text? (value : String) : Option Literal := if value = "" then none else some (.text value)

/-- The names that an object requires, left out if there are none. -/
def names? : Option (List String) → Option Literal
  | some (name :: names) => some (.list ((name :: names).map .text))
  | _ => none

section
variable {key other value : String} {entries : List (String × Literal)}

theorem text?_inj {value other : String} (h : text? value = text? other) : value = other := by
  unfold text? at h
  split at h <;> split at h
  · next hv ho => rw [hv, ho]
  · cases h
  · cases h
  · cases h; rfl

theorem names?_inj {names others : List String} (h : names? (some names) = names? (some others)) :
    names = others := by
  have htext : Function.Injective Literal.text := fun _ _ he => Literal.text.inj he
  cases names with
  | nil => cases others with
    | nil => rfl
    | cons other others => cases h
  | cons name names => cases others with
    | nil => cases h
    | cons other others =>
      exact List.map_injective_iff.2 htext (Literal.list.inj (Option.some.inj h))

/-- Entries under another key do not matter. -/
theorem lookup_of_keys (h : ∀ entry ∈ entries, entry.1 = other) (hne : key ≠ other) :
    entries.lookup key = none := by
  rw [Entries.lookup_eq_none]
  intro hk
  obtain ⟨entry, hm, rfl⟩ := List.mem_map.1 hk
  exact hne (h entry hm)

theorem key_textEntry : ∀ entry ∈ textEntry key value, entry.1 = key := by
  unfold textEntry
  split
  · nofun
  · exact List.forall_mem_singleton.2 rfl

theorem lookup_textEntry : (textEntry key value).lookup key = text? value := by
  unfold textEntry text?
  split
  · rfl
  · rw [List.lookup_cons_self]

end

/-- The entry for the properties, which only an object has. -/
def propertiesPart (node : Node) : List (String × Literal) :=
  if node.type = objectType then [("properties", .dict (propertyLiterals node.properties))] else []

/-- The entry for the items, which only an array has. -/
def itemsPart (node : Node) : List (String × Literal) :=
  if node.type = arrayType then itemsEntry node.items else []

/-- The entry for the required names, which only an object has. -/
def requiredPart (node : Node) : List (String × Literal) :=
  if node.type = objectType then (names? node.required).toList.map ("required", ·) else []

variable (node : Node)

theorem toLiteral_eq : node.toLiteral =
    .dict (("type", .text node.type) :: (textEntry "description" node.description ++
      textEntry "example" node.sample ++ node.propertiesPart ++ node.itemsPart ++
        node.requiredPart)) := by
  obtain ⟨type, description, sample, properties, items, - | - | ⟨name, names⟩⟩ := node
  · rw [toLiteral]
    · unfold requiredPart names?
      simp only [Option.toList_none, List.map_nil, ite_self]
      rfl
    · intro _ _ h
      cases h
  · rw [toLiteral]
    · unfold requiredPart names?
      simp only [Option.toList_none, List.map_nil, ite_self]
      rfl
    · intro _ _ h
      cases h
  · rw [toLiteral]
    rfl

theorem key_propertiesPart : ∀ entry ∈ node.propertiesPart, entry.1 = "properties" := by
  unfold propertiesPart
  split
  · exact List.forall_mem_singleton.2 rfl
  · nofun

theorem key_itemsPart : ∀ entry ∈ node.itemsPart, entry.1 = "items" := by
  unfold itemsPart
  split
  · unfold itemsEntry
    split
    · nofun
    · exact List.forall_mem_singleton.2 rfl
  · nofun

theorem key_requiredPart : ∀ entry ∈ node.requiredPart, entry.1 = "required" := by
  unfold requiredPart
  split
  · intro entry hm
    obtain ⟨_, -, rfl⟩ := List.mem_map.1 hm
    rfl
  · nofun

theorem under?_type : under? "type" node.toLiteral = some (.text node.type) := by
  rw [toLiteral_eq]
  rfl

/-- What is not under the first key is in one of the parts. -/
theorem under?_of_ne {key : String} (h : key ≠ "type") : under? key node.toLiteral =
    (((((textEntry "description" node.description).lookup key).or
      ((textEntry "example" node.sample).lookup key)).or (node.propertiesPart.lookup key)).or
        (node.itemsPart.lookup key)).or (node.requiredPart.lookup key) := by
  rw [toLiteral_eq, under?, List.lookup_cons, beq_eq_false_iff_ne.2 h]
  simp only [List.lookup_append]

theorem under?_description : under? "description" node.toLiteral = text? node.description := by
  rw [node.under?_of_ne (by decide), lookup_textEntry, lookup_of_keys key_textEntry (by decide),
    lookup_of_keys node.key_propertiesPart (by decide),
    lookup_of_keys node.key_itemsPart (by decide), lookup_of_keys node.key_requiredPart (by decide)]
  simp only [Option.or_none]

theorem under?_example : under? "example" node.toLiteral = text? node.sample := by
  rw [node.under?_of_ne (by decide), lookup_textEntry, lookup_of_keys key_textEntry (by decide),
    lookup_of_keys node.key_propertiesPart (by decide),
    lookup_of_keys node.key_itemsPart (by decide), lookup_of_keys node.key_requiredPart (by decide)]
  simp only [Option.or_none, Option.none_or]

theorem under?_properties : under? "properties" node.toLiteral =
    if node.type = objectType then some (.dict (propertyLiterals node.properties)) else none := by
  rw [node.under?_of_ne (by decide), lookup_of_keys key_textEntry (by decide),
    lookup_of_keys key_textEntry (by decide),
    lookup_of_keys node.key_itemsPart (by decide), lookup_of_keys node.key_requiredPart (by decide)]
  simp only [Option.or_none, Option.none_or]
  unfold propertiesPart
  split
  · rw [List.lookup_cons_self]
  · rfl

theorem under?_items : under? "items" node.toLiteral =
    if node.type = arrayType then node.items.map toLiteral else none := by
  rw [node.under?_of_ne (by decide), lookup_of_keys key_textEntry (by decide),
    lookup_of_keys key_textEntry (by decide), lookup_of_keys node.key_propertiesPart (by decide),
    lookup_of_keys node.key_requiredPart (by decide)]
  simp only [Option.or_none, Option.none_or]
  unfold itemsPart itemsEntry
  split
  · cases node.items with
    | none => rfl
    | some items => exact List.lookup_cons_self
  · rfl

theorem under?_required : under? "required" node.toLiteral =
    if node.type = objectType then names? node.required else none := by
  rw [node.under?_of_ne (by decide), lookup_of_keys key_textEntry (by decide),
    lookup_of_keys key_textEntry (by decide), lookup_of_keys node.key_propertiesPart (by decide),
    lookup_of_keys node.key_itemsPart (by decide)]
  simp only [Option.none_or]
  unfold requiredPart
  split
  · cases names? node.required with
    | none => rfl
    | some names => exact List.lookup_cons_self
  · rfl

/-! ## The schema of a literal -/

/-- Properties with the same literals are the same, if each of them can be told from its literal. -/
theorem entryLiterals_inj {properties others : List (String × Node)}
    (h : ∀ property ∈ properties, ∀ other : String × Node, other ∈ others →
      property.2.toLiteral = other.2.toLiteral → property.2 = other.2)
    (he : entryLiterals properties = entryLiterals others) : properties = others := by
  induction properties generalizing others with
  | nil => cases others with
    | nil => rfl
    | cons other others => cases he
  | cons property properties ih => cases others with
    | nil => cases he
    | cons other others =>
      obtain ⟨name, node⟩ := property
      obtain ⟨name', node'⟩ := other
      simp only [entryLiterals, List.cons.injEq, Prod.mk.injEq] at he
      obtain ⟨⟨rfl, hnode⟩, hrest⟩ := he
      obtain rfl : node = node' := h _ List.mem_cons_self _ List.mem_cons_self hnode
      obtain rfl := ih (fun _ hm _ hm' =>
        h _ (List.mem_cons_of_mem _ hm) _ (List.mem_cons_of_mem _ hm')) hrest
      rfl

theorem type_object (properties : List (String × Node)) (required : List String)
    (description sample : String) :
    (object properties required description sample).type = objectType := rfl

theorem type_array (items : Node) (description sample : String) :
    (array items description sample).type = arrayType := rfl

variable {a b : Node}

/-- The texts of a schema are those of its literal. -/
theorem texts_of_toLiteral (h : a.toLiteral = b.toLiteral) :
    a.type = b.type ∧ a.description = b.description ∧ a.sample = b.sample := by
  refine ⟨?_, ?_, ?_⟩
  · have he := congrArg (under? "type") h
    rw [under?_type, under?_type] at he
    exact Literal.text.inj (Option.some.inj he)
  · have he := congrArg (under? "description") h
    rw [under?_description, under?_description] at he
    exact text?_inj he
  · have he := congrArg (under? "example") h
    rw [under?_example, under?_example] at he
    exact text?_inj he

/-- The parts of an object are those of its literal. -/
theorem parts_of_object {properties others : List (String × Node)}
    {required required' : List String} {description sample description' sample' : String}
    (h : (object properties required description sample).toLiteral =
      (object others required' description' sample').toLiteral) :
    entryLiterals properties = entryLiterals others ∧ required = required' := by
  constructor
  · have he := congrArg (under? "properties") h
    rw [under?_properties, under?_properties, if_pos (type_object ..),
      if_pos (type_object ..)] at he
    exact Literal.dict.inj (Option.some.inj he)
  · have he := congrArg (under? "required") h
    rw [under?_required, under?_required, if_pos (type_object ..), if_pos (type_object ..)] at he
    exact names?_inj he

/-- The items of an array are those of its literal. -/
theorem items_of_array {items items' : Node} {description sample description' sample' : String}
    (h : (array items description sample).toLiteral =
      (array items' description' sample').toLiteral) : items.toLiteral = items'.toLiteral := by
  have he := congrArg (under? "items") h
  rw [under?_items, under?_items, if_pos (type_array ..), if_pos (type_array ..)] at he
  exact Option.some.inj he

/-- Schemas with the same literal are the same. -/
theorem toLiteral_inj (ha : a.IsShaped) (hb : b.IsShaped) (h : a.toLiteral = b.toLiteral) :
    a = b := by
  have hkind : objectType ≠ arrayType := by decide
  -- The type tells the form, so that only schemas of one form are left to compare.
  induction ha generalizing b with
  | object _ ih =>
    obtain ⟨ht, hd, hs⟩ := texts_of_toLiteral h
    cases hb with
    | object hb =>
      obtain ⟨hp, rfl⟩ := parts_of_object h
      obtain rfl :=
        entryLiterals_inj (fun property hm other hm' => ih property hm (hb other hm')) hp
      obtain rfl := hd
      obtain rfl := hs
      rfl
    | array => exact absurd ht hkind
    | scalar hobject => exact absurd ht.symm hobject
  | array _ ih =>
    obtain ⟨ht, hd, hs⟩ := texts_of_toLiteral h
    cases hb with
    | object => exact absurd ht.symm hkind
    | array hb =>
      obtain rfl := ih hb (items_of_array h)
      obtain rfl := hd
      obtain rfl := hs
      rfl
    | scalar _ harray => exact absurd ht.symm harray
  | scalar hobject harray =>
    obtain ⟨ht, hd, hs⟩ := texts_of_toLiteral h
    cases hb with
    | object => exact absurd ht hobject
    | array => exact absurd ht harray
    | scalar =>
      obtain rfl := ht
      obtain rfl := hd
      obtain rfl := hs
      rfl

end Node

/-! ## The schemas of message types -/

section
open Node (IsShaped)
open Relation (ReflTransGen)
variable {index : TypeIndex}

theorem sizeOf_lt_of_holds {node child : Node} (h : node.Holds child) :
    sizeOf child < sizeOf node := by
  obtain ⟨type, description, sample, properties, items, required⟩ := node
  cases h with
  | property hp hm =>
    obtain rfl := hp
    have := List.sizeOf_lt_of_mem hm
    simp only [Prod.mk.sizeOf_spec, Node.mk.sizeOf_spec, Option.some.sizeOf_spec] at *
    omega
  | items hi =>
    obtain rfl := hi
    simp only [Node.mk.sizeOf_spec, Option.some.sizeOf_spec]
    omega

/-- A node is shaped if all that is inside it is well formed. -/
theorem isShaped_of_wellFormed (node : Node)
    (h : ∀ part, ReflTransGen Node.Holds node part → part.WellFormed index) : node.IsShaped := by
  have hinner : ∀ child, node.Holds child → child.IsShaped := fun child hc =>
    isShaped_of_wellFormed child fun part hp => h part (.head hc hp)
  cases h node .refl with
  | @object properties _ type hp hr _ hi =>
    have hshaped : ∀ property ∈ properties, property.2.IsShaped :=
      fun _ hm => hinner _ (.property hp hm)
    rw [Node.eq_object type hp hr hi]
    exact .object hshaped
  | array type hi _ hp hr =>
    have hshaped := hinner _ (.items hi)
    rw [Node.eq_array type hi hp hr]
    exact .array hshaped
  | scalar type hp hi hr =>
    have hobject : objectType ∉ scalarTypes := by decide
    have harray : arrayType ∉ scalarTypes := by decide
    rw [Node.eq_scalar hp hi hr]
    exact .scalar (fun h => hobject (h ▸ type)) fun h => harray (h ▸ type)
termination_by sizeOf node
decreasing_by exact sizeOf_lt_of_holds hc

/-- The schema of a message type is shaped, where message types are named in full. -/
theorem isShaped_of_ofType {active : List String} {name : String} {node : Node}
    (hn : index.HasFullNames) (h : (ofType index active name).result = .ok node) : node.IsShaped :=
  isShaped_of_wellFormed _ fun _ hp => wellFormed_of_holds hn h hp

end

/-- Shaped schemas with the same text, at whatever levels, are the same. -/
theorem Node.eq_of_render {a b : Node} (ha : a.IsShaped) (hb : b.IsShaped) {level level' : Int}
    (h : a.toValue.toLiteral.map (·.render level) = b.toValue.toLiteral.map (·.render level')) :
    a = b := by
  rw [toLiteral_toValue, toLiteral_toValue] at h
  exact toLiteral_inj ha hb (Literal.render_inj (Except.ok.inj h))

/-- Properties with the names that entries of a schema have, and texts with quotes and braces. -/
theorem Node.eq_of_render_lookalike :
    fieldNode { name := "items", kind := .map, typeRef := .message ".Type", sample := "\x7b\"" }
      (.object [("type", .scalar "string" "a \"type\"" ""), ("items", .opaqueObject)] ["type"] ""
        "") =
    .object [("type", .scalar "string" "a \"type\"" ""), ("items", .opaqueObject)] ["type"] ""
      "\x7b\"" := by
  have hscalar : (scalar "string" "a \"type\"" "").IsShaped := .scalar (by decide) (by decide)
  have hshaped : ∀ sample, (object [("type", scalar "string" "a \"type\"" ""),
      ("items", opaqueObject)] ["type"] "" sample).IsShaped :=
    fun _ => .object (by simpa using ⟨hscalar, .object nofun⟩)
  exact @eq_of_render _ _ (hshaped _) (hshaped _) 0 0 rfl

end ToolBindings.Schema
