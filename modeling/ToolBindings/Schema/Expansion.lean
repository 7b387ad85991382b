import ToolBindings.Journal.Logged
import ToolBindings.Schema.Node
import ToolBindings.Tool.Basic
/-!
# Schemas of message types

`Schema.ofType` describes a message type by an object whose properties are the fields;
message types of fields are described inside it. A type that occurs inside its own
description is not expanded again but stands as an object without properties.

* `expandFields` keeps the list of the types being expanded. It ends, because the types of
  the index outside that list become fewer with every message that it enters.
* `expandFields_cons`: it takes the fields one after the other, and `valueNode` says what
  stands for the values of a field.
-/
namespace ToolBindings.Schema

/-- The number of names in the index that are not being expanded. -/
def unexpanded (index : TypeIndex) (active : List String) : Nat :=
  index.names.countP (· ∉ active)

theorem countP_lt_countP {α : Type} {p q : α → Bool} {a : α} {xs : List α}
    (himp : ∀ x, q x = true → p x = true) (ha : a ∈ xs) (hp : p a = true) (hq : q a = false) :
    xs.countP q < xs.countP p := by
  induction xs with
  | nil => simp at ha
  | cons x xs ih =>
    have hle : xs.countP q ≤ xs.countP p := List.countP_mono_left fun x _ => himp x
    rw [List.countP_cons, List.countP_cons]
    rcases List.mem_cons.1 ha with rfl | hm
    · simp [hp, hq]; omega
    · have := ih hm
      cases hqx : q x
      · simp; omega
      · simp [himp x hqx]; omega

theorem unexpanded_cons_lt {index : TypeIndex} {active : List String} {name : String}
    (hn : name ∈ index.names) (ha : name ∉ active) :
    unexpanded index (name :: active) < unexpanded index active :=
  countP_lt_countP (fun x hx => by simp_all) hn (by simpa) (by simp)

def fieldCount (index : TypeIndex) : Nat := (index.entries.flatMap (·.2.fields)).length

theorem length_fields_le {index : TypeIndex} {name : String} {message : Message}
    (h : index.find? name = some message) : message.fields.length ≤ fieldCount index := by
  obtain ⟨before, after, he⟩ := List.append_of_mem (TypeIndex.mem_entries_of_find h)
  unfold fieldCount
  rw [he, List.flatMap_append, List.flatMap_cons, List.length_append, List.length_append]
  show message.fields.length ≤ _ + (message.fields.length + _)
  omega

/-- A bound for the number of fields still to be looked at on one branch of the expansion. -/
def remaining (index : TypeIndex) (active : List String) (fields : List Field) : Nat :=
  unexpanded index active * (fieldCount index + 1) + fields.length

theorem remaining_lt {index : TypeIndex} {active : List String} {name : String} {message : Message}
    (ha : name ∉ active) (h : index.find? name = some message) (fields : List Field) :
    remaining index (name :: active) message.fields < remaining index active fields := by
  have hu := unexpanded_cons_lt (TypeIndex.mem_names_of_find h) ha
  have hf := length_fields_le h
  have hm := Nat.mul_le_mul_right (fieldCount index + 1) (Nat.succ_le_of_lt hu)
  rw [Nat.succ_mul] at hm
  unfold remaining
  omega

/-- The node of a field, given the node for the type of its values. A map whose values are
objects has their properties and required names. -/
def fieldNode (spec : FieldSpec) (value : Node) : Node :=
  match spec.kind with
  | .repeated => .array value spec.description spec.sample
  | .map =>
    if value.isObject then
      .object (value.properties.getD []) (value.required.getD []) spec.description spec.sample
    else .object [] [] spec.description spec.sample
  | .scalar | .message => value.described spec.description spec.sample

/-- The object with the given fields as its properties. Of two fields of one name the
first gives the place and the last the node. -/
def messageNode (fields : List (FieldSpec × Node)) : Node :=
  .object (Entries.ofPairs (fields.map fun (spec, node) => (spec.name, node)))
    ((fields.filter (·.1.required)).map (·.1.name)) "" ""

/-- Specifications and nodes of the fields of the message type `owner`, while the types in
`active` are being expanded. -/
def expandFields (index : TypeIndex) (active : List String) (owner : String) :
    List Field → Logged (List (FieldSpec × Node))
  | [] => pure []
  | field :: rest => do
    let spec ← Logged.ofExcept (FieldSpec.ofField index owner field)
    let value ← (match spec.typeRef with
      | .object => pure .opaqueObject
      | .scalar name => pure (.scalar name "" "")
      | .message name =>
        if _ : name ∈ active then do
          Logged.report (.referenceTruncated (withoutDots name))
          pure .opaqueObject
        else
          match _ : index.find? name with
          | none => Logged.reject (.shape (.unresolvedType name))
          | some message =>
            messageNode <$> expandFields index (name :: active) (withoutDots name) message.fields)
    let others ← expandFields index active owner rest
    return (spec, fieldNode spec value) :: others
termination_by fields => remaining index active fields
decreasing_by
  · exact remaining_lt ‹_› ‹_› _
  · simp [remaining]

/-- The schema of a message type, while the types in `active` are being expanded. -/
def ofType (index : TypeIndex) (active : List String) (name : String) : Logged Node := do
  let message ← Logged.ofExcept (index.resolve name)
  messageNode <$> expandFields index (name :: active) (withoutDots name) message.fields

/-- The node for the values of a field: that of the message type that they refer to, unless
it is being expanded already. -/
def valueNode (index : TypeIndex) (active : List String) : TypeRef → Logged Node
  | .object => pure .opaqueObject
  | .scalar name => pure (.scalar name "" "")
  | .message name =>
    if name ∈ active then do
      Logged.report (.referenceTruncated (withoutDots name))
      pure .opaqueObject
    else ofType index active name

theorem expandFields_nil (index : TypeIndex) (active : List String) (owner : String) :
    expandFields index active owner [] = pure [] := by
  rw [expandFields]

/-- Fields are described one after the other, each before its values are. -/
theorem expandFields_cons (index : TypeIndex) (active : List String) (owner : String)
    (field : Field) (rest : List Field) :
    expandFields index active owner (field :: rest) = do
      let spec ← Logged.ofExcept (FieldSpec.ofField index owner field)
      let value ← valueNode index active spec.typeRef
      let others ← expandFields index active owner rest
      return (spec, fieldNode spec value) :: others := by
  rw [expandFields]
  congr 1
  funext spec
  congr 1
  generalize spec.typeRef = ref
  cases ref with
  | object => rfl
  | scalar name => rfl
  | message name =>
    unfold valueNode
    simp only
    split
    · rfl
    · unfold ofType TypeIndex.resolve
      split <;> simp_all <;> rfl

end Schema

def Tool.withSchema (index : TypeIndex) (tool : Tool) : Logged Tool := do
  let schema ← Schema.ofType index [] tool.inputType
  return { tool with schema := some schema }

def withSchemas (index : TypeIndex) (tools : List Tool) : Logged (List Tool) :=
  tools.mapM (Tool.withSchema index)

end ToolBindings
