import ToolBindings.Proofs.Schema.Descent
import ToolBindings.Proofs.Schema.Unfolding

/-!
# Where the metadata of fields go

What a field says of itself stands in its own node: not in the node of its values, which
may be inside it, and not in any node further inside. Which properties an object needs is
said by the fields of the message type that it shows, and by nothing else.

* `requiredNames`: what the fields of a type ask for, by their options alone.
* `Node.Requires`: the required names of the objects at one place of a schema.
* `requires_fieldNode`, `required_of_ofType`: they are those of the type that is shown there.
* `Bears`, `metadata_exact`: metadata and required names of each node of a schema.
-/
namespace ToolBindings

/-- The names of the fields that ask for a value, in the order of their declaration. -/
def requiredNames (fields : List Field) : List String :=
  (fields.filter (·.stated.required)).map (·.name)

namespace Schema

/-- The objects at a place of a schema, the node itself or the items that it has, need exactly the
properties of the given names. -/
def Node.Requires (node : Node) (names : List String) : Prop :=
  ∀ object, object = node ∨ node.items = some object → object.isObject = true →
    object.required = some names

/-- What is asked for where a reference stands: what the fields of its message type ask for, or
nothing if the reference is not looked into. -/
def requiredAt (index : TypeIndex) (active : List String) : TypeRef → List String
  | .message target =>
    if target ∈ active then []
    else ((index.find? target).map fun message => requiredNames message.fields).getD []
  | .object | .scalar _ => []

section
variable {index : TypeIndex} {active : List String} {owner name : String} {field : Field}
  {fields : List Field} {parts : List (FieldSpec × Node)} {part : FieldSpec × Node}
  {spec : FieldSpec} {ref : TypeRef} {node root value : Node} {names : List String}

/-! ## Objects -/

theorem required_of_parts (h : List.Forall₂ (Expands index active owner) fields parts) :
    (messageNode parts).required = some (requiredNames fields) := by
  refine congrArg some (names_of_parts (List.rel_filter (fun field part hpart => ?_) h))
  obtain ⟨-, -, hrequired, -⟩ := stated_of_ofField hpart.1
  exact iff_of_eq (congrArg (· = true) hrequired.symm)

theorem required_of_ofType (h : (ofType index active name).result = .ok root) :
    ∃ message, index.find? name = some message ∧
      root.required = some (requiredNames message.fields) := by
  obtain ⟨message, parts, hm, hparts, rfl⟩ := ofType_eq_ok.1 h
  exact ⟨message, hm, required_of_parts hparts⟩

/-- The object for the values of a reference. -/
theorem required_of_stands (h : Stands index active ref value)
    (hne : ref ≠ .scalar objectType) (ho : value.isObject = true) :
    value.required = some (requiredAt index active ref) := by
  cases h with
  | object => rfl
  | scalar type => exact absurd (congrArg TypeRef.scalar (beq_iff_eq.1 ho)) hne
  | truncated ht => rw [requiredAt, if_pos ht]; rfl
  | expanded ht hn =>
    obtain ⟨message, hm, hr⟩ := required_of_ofType hn
    rw [requiredAt, if_neg ht, hm, hr]
    rfl

/-! ## The node of a field -/

theorem requires_of_bare (h : node.bare.Requires names) : node.Requires names := by
  rintro object (rfl | hi) ho
  · exact h object.bare (.inl rfl) ho
  · exact h object (.inr hi) ho

theorem requires_of_items_eq_none (hi : node.items = none)
    (h : node.isObject = true → node.required = some names) : node.Requires names := by
  rintro object (rfl | hitems) ho
  · exact h ho
  · rw [hi] at hitems; cases hitems

theorem requires_array (h : value.isObject = true → value.required = some names) :
    (Node.array value "" "").Requires names := by
  rintro object (rfl | hitems) ho
  · cases ho
  · cases hitems; exact h ho

/-- The objects in the node of a field ask for what the type of its values asks for. -/
theorem requires_fieldNode (h : Stands index active ref value) (hne : ref ≠ .scalar objectType) :
    (fieldNode spec value).Requires (requiredAt index active ref) := by
  have hvalue := required_of_stands h hne
  have hself : value.Requires (requiredAt index active ref) :=
    requires_of_items_eq_none (items_of_stands h).1 hvalue
  refine requires_of_bare ?_
  rw [bare_fieldNode spec h]
  split
  · exact requires_array hvalue
  · exact requires_of_items_eq_none rfl fun _ => rfl
  · exact hself

theorem items_fieldNode (h : Stands index active ref value) {items : Node}
    (hi : (fieldNode spec value).items = some items) : items = value := by
  have hb : (fieldNode spec value).bare.items = some items := hi
  rw [bare_fieldNode spec h] at hb
  split at hb
  · cases hb; rfl
  · cases hb
  · rw [(items_of_stands h).1] at hb; cases hb

/-- A field's node bears what the field says of itself, and nothing of it gets to the items. -/
theorem metadata_of_expands (h : Expands index active owner field part) :
    (part.2.description = field.stated.description ∧ part.2.sample = field.stated.sample) ∧
      ∀ items, part.2.items = some items → items.description = "" ∧ items.sample = "" := by
  obtain ⟨hs, value, hv, hn⟩ := h
  obtain ⟨hdescription, hsample, -, -⟩ := stated_of_ofField hs
  obtain ⟨hd, hs⟩ := metadata_fieldNode part.1 hv
  rw [hn]
  refine ⟨⟨hd.trans hdescription, hs.trans hsample⟩, fun items hi => ?_⟩
  rw [items_fieldNode hv hi, ← bare_of_stands hv]
  exact ⟨rfl, rfl⟩

/-- The objects in a field's node ask for what the type asks for that the field refers to, unless
that type is being expanded. -/
theorem requires_of_expands (h : Expands index active owner field part) :
    (∀ target, field.refersTo index = some target → target ∉ active →
      ∃ message, index.find? target = some message ∧
        part.2.Requires (requiredNames message.fields)) ∧
    ((∀ target, field.refersTo index = some target → target ∈ active) → part.2.Requires []) := by
  obtain ⟨hs, value, hv, hn⟩ := h
  have hrequires : part.2.Requires (requiredAt index active part.1.typeRef) :=
    hn ▸ requires_fieldNode hv (typeRef_ne_object hs)
  have href := typeRef_eq_message hs
  refine ⟨fun target ht ha => ?_, fun hin => ?_⟩
  · rw [(href target).2 ht] at hrequires hv
    cases hv with
    | truncated hm => exact absurd hm ha
    | expanded _ hschema =>
      obtain ⟨message, hm, -⟩ := required_of_ofType hschema
      rw [requiredAt, if_neg ha, hm] at hrequires
      exact ⟨message, hm, hrequires⟩
  · cases htype : part.1.typeRef with
    | object => rw [htype] at hrequires; exact hrequires
    | scalar type => rw [htype] at hrequires; exact hrequires
    | message target =>
      rw [htype, requiredAt, if_pos (hin target ((href target).1 htype))] at hrequires
      exact hrequires

end

/-! ## All nodes -/

/-- What the last field of a route says of itself. Where no field leads nothing is said. -/
def lastStated (steps : List (String × Field)) : FieldMetadata :=
  (steps.getLast?.map (·.2.stated)).getD {}

/-- Metadata and required names at the end of a route: the metadata of the last field, and the
names that the message type asks for into which the route can be followed. -/
structure Bears (index : TypeIndex) (avoid : List String) (start : String)
    (steps : List (String × Field)) (node : Node) : Prop where
  description : node.description = (lastStated steps).description
  sample : node.sample = (lastStated steps).sample
  plain : ∀ items, node.items = some items → items.description = "" ∧ items.sample = ""
  entered : ∀ target, Enters index avoid start steps target →
    ∃ message, index.find? target = some message ∧ node.Requires (requiredNames message.fields)
  closed : (∀ target, ¬Enters index avoid start steps target) → node.Requires []

section
variable {index : TypeIndex} {active : List String} {start : String} {root node : Node}
  {steps : List (String × Field)}

theorem bears_root (h : (ofType index active start).result = .ok root) :
    Bears index active start [] root := by
  have hb := bare_of_ofType h
  obtain ⟨message, hm, hr⟩ := required_of_ofType h
  have hitems : root.items = none := by
    obtain ⟨_, _, -, -, rfl⟩ := ofType_eq_ok.1 h
    rfl
  refine ⟨(congrArg Node.description hb).symm, (congrArg Node.sample hb).symm, ?_, ?_, ?_⟩
  · intro items hi
    rw [hitems] at hi
    cases hi
  · rintro _ rfl
    exact ⟨message, hm, requires_of_items_eq_none hitems fun _ => hr⟩
  · exact fun hc => absurd rfl (hc start)

/-- What a route leads to bears the metadata of its last field. -/
theorem bears_of_route (hd : index.HasDistinctFields) (hr : Route index active start steps)
    (h : (ofType index active start).result = .ok root) (hn : root.at? (names steps) = some node) :
    Bears index active start steps node := by
  cases hlast : steps.getLast? with
  | none =>
    obtain rfl := List.getLast?_eq_none_iff.1 hlast
    cases hn
    exact bears_root h
  | some last =>
    obtain ⟨around, schema, hschema, hat, henters⟩ := exists_last_level hd hr hlast h
    obtain ⟨message, hm, hf⟩ := hr.declared last (List.mem_of_getLast? hlast)
    obtain ⟨_, parts, hm', hparts, rfl⟩ := ofType_eq_ok.1 hschema
    rw [hm] at hm'
    cases hm'
    obtain ⟨part, -, he, hl⟩ := part_of_mem hparts (hd _ _ hm) hf
    have hproperties : (messageNode parts).propertyNodes =
        parts.map fun part => (part.1.name, part.2) :=
      congrArg (·.getD []) (properties_messageNode hparts (hd _ _ hm))
    rw [hat, Node.at?, hproperties, hl] at hn
    cases hn
    obtain ⟨⟨hdescription, hsample⟩, hplain⟩ := metadata_of_expands he
    obtain ⟨hentered, hclosed⟩ := requires_of_expands he
    have hstated : lastStated steps = last.2.stated := by
      rw [lastStated, hlast]; rfl
    refine ⟨hstated ▸ hdescription, hstated ▸ hsample, hplain, fun target ht => ?_, fun hc => ?_⟩
    · obtain ⟨href, ha⟩ := (henters target).1 ht
      exact hentered target href ha
    · refine hclosed fun target href => ?_
      by_contra ha
      exact hc target ((henters target).2 ⟨href, ha⟩)

end

/-- Each node of a schema bears the metadata of the field that leads to it, and its objects ask for
what the message type asks for that they show. -/
theorem metadata_exact {index : TypeIndex} {active : List String} {start : String} {root : Node}
    (hd : index.HasDistinctFields) (h : (ofType index active start).result = .ok root) :
    ∀ path node, root.at? path = some node →
      ∃ steps, Route index active start steps ∧ names steps = path ∧
        Bears index active start steps node := by
  intro path node hn
  obtain ⟨steps, hr, rfl⟩ := route_of_node hd h (Option.isSome_iff_exists.2 ⟨node, hn⟩)
  exact ⟨steps, hr, rfl, bears_of_route hd hr h hn⟩

/-- Parcels with a sender, and with receivers who have parcels themselves. -/
def parcelIndex : TypeIndex :=
  let person (name : String) (label : Label) (metadata : FieldMetadata) : Field :=
    { name, label, type := .message, typeName := ".Person", options := metadata.toOptions }
  ⟨[(".Parcel", { fields := [
      person "sender" .optional { description := "Who pays.", required := true },
      person "receivers" .repeated { description := "Who gets it." }] }),
    (".Person", { fields := [
      { name := "name", type := .string
        options := FieldMetadata.toOptions { required := true, sample := "Ann" } },
      { name := "last", type := .message, typeName := ".Parcel" }] })]⟩

theorem metadata_exact_parcel : ∃ root node,
    (ofType parcelIndex [] ".Parcel").result = .ok root ∧
      root.at? ["receivers", "last"] = some node ∧
      ∃ steps, Route parcelIndex [] ".Parcel" steps ∧ names steps = ["receivers", "last"] ∧
        Bears parcelIndex [] ".Parcel" steps node := by
  have hd : parcelIndex.HasDistinctFields := TypeIndex.hasDistinctFields_of_entries (by decide)
  have h : ((ofType parcelIndex [] ".Parcel").result.toOption.bind
      (·.at? ["receivers", "last"])).isSome := by
    decide +kernel
  obtain ⟨node, hnode⟩ := Option.isSome_iff_exists.1 h
  obtain ⟨root, hroot, hat⟩ := Option.bind_eq_some_iff.1 hnode
  rw [toOption_eq_some] at hroot
  exact ⟨root, node, hroot, hat, metadata_exact hd hroot _ node hat⟩

end Schema

end ToolBindings
