import ToolBindings.Literal.Value
import ToolBindings.Proofs.Journal.Success
import ToolBindings.Schema.Node

/-!
# Schemas as plain values

A schema can be turned into a dictionary of texts, lists and dictionaries before it is
written. None of these lacks a literal, so a schema of any depth can be written.

* `Node.toValue`: the dictionary of a schema.
* `Node.toLiteral_toValue`: its literal is the one that stands in a module.
-/
namespace ToolBindings.Schema.Node

/-- An entry for a text, left out if the text is empty. -/
def textValue (key value : String) : List (Key × Value) :=
  if value = "" then [] else [(.text key, .text value)]

mutual

/-- The dictionary of a schema. Attributes without content are left out. -/
def toValue : Node → Value
  | ⟨type, description, sample, properties, items, required⟩ =>
    .dict ((.text "type", .text type) ::
      (textValue "description" description ++ textValue "example" sample ++
        (if type = objectType then [(.text "properties", .dict (propertyValues properties))]
          else []) ++
        (if type = arrayType then itemsValue items else []) ++
        (match required with
          | some (name :: names) =>
            if type = objectType then
              [(.text "required", .list ((name :: names).map .text))] else []
          | _ => [])))

def propertyValues : Option (List (String × Node)) → List (Key × Value)
  | none => []
  | some properties => entryValues properties

def entryValues : List (String × Node) → List (Key × Value)
  | [] => []
  | (name, node) :: rest => (.text name, node.toValue) :: entryValues rest

def itemsValue : Option Node → List (Key × Value)
  | none => []
  | some node => [(.text "items", node.toValue)]

end

/-! ## Literals -/

theorem toEntries_append {front back : List (Key × Value)} {front' back' : List (String × Literal)}
    (h : Value.toEntries front = .ok front') (h' : Value.toEntries back = .ok back') :
    Value.toEntries (front ++ back) = .ok (front' ++ back') := by
  induction front generalizing front' with
  | nil => cases h; exact h'
  | cons entry rest ih =>
    obtain ⟨key, value⟩ := entry
    rw [Value.toEntries, bind_eq_ok] at h
    obtain ⟨name, hkey, h⟩ := h
    obtain ⟨literal, hvalue, h⟩ := bind_eq_ok.1 h
    obtain ⟨others, hrest, h⟩ := bind_eq_ok.1 h
    cases h
    rw [List.cons_append, Value.toEntries, hkey, ok_bind, hvalue, ok_bind, ih hrest]
    rfl

theorem toEntries_singleton (key : String) {value : Value} {literal : Literal}
    (h : value.toLiteral = .ok literal) :
    Value.toEntries [(.text key, value)] = .ok [(key, literal)] := by
  rw [Value.toEntries, h]
  rfl

theorem toEntries_ite {p : Prop} [Decidable p] {entries : List (Key × Value)}
    {literals : List (String × Literal)} (h : Value.toEntries entries = .ok literals) :
    Value.toEntries (if p then entries else []) = .ok (if p then literals else []) := by
  split
  · exact h
  · rfl

theorem toEntries_textValue (key value : String) :
    Value.toEntries (textValue key value) = .ok (textEntry key value) := by
  unfold textValue textEntry
  split <;> rfl

theorem toLiterals_texts (texts : List String) :
    Value.toLiterals (texts.map .text) = .ok (texts.map .text) := by
  induction texts with
  | nil => rfl
  | cons text rest ih => rw [List.map_cons, Value.toLiterals, ih]; rfl

mutual

/-- The literal of the dictionary is that of the schema. -/
theorem toLiteral_toValue : ∀ node : Node, node.toValue.toLiteral = .ok node.toLiteral
  | ⟨type, description, sample, properties, items, required⟩ => by
    have hproperties : (Value.dict (propertyValues properties)).toLiteral =
        .ok (.dict (propertyLiterals properties)) := by
      cases properties with
      | none => rfl
      | some properties =>
        rw [propertyValues, propertyLiterals, Value.toLiteral, toEntries_entryValues properties]
        rfl
    have hitems : Value.toEntries (itemsValue items) = .ok (itemsEntry items) := by
      cases items with
      | none => rfl
      | some node => exact toEntries_singleton "items" (toLiteral_toValue node)
    have htexts := toEntries_append (toEntries_textValue "description" description)
      (toEntries_textValue "example" sample)
    have hobject := toEntries_append htexts
      (toEntries_ite (p := type = objectType) (toEntries_singleton "properties" hproperties))
    have harray := toEntries_append hobject (toEntries_ite (p := type = arrayType) hitems)
    rcases required with - | - | ⟨name, names⟩
    · rw [toValue, toLiteral, Value.toLiteral, Value.toEntries, toEntries_append harray rfl]
      · rfl
      all_goals nofun
    · rw [toValue, toLiteral, Value.toLiteral, Value.toEntries, toEntries_append harray rfl]
      · rfl
      all_goals nofun
    · have hnames : (Value.list ((name :: names).map .text)).toLiteral =
          .ok (.list ((name :: names).map .text)) := by
        rw [Value.toLiteral, toLiterals_texts]
        rfl
      rw [toValue, toLiteral, Value.toLiteral, Value.toEntries,
        toEntries_append harray (toEntries_ite (toEntries_singleton "required" hnames))]
      rfl

theorem toEntries_entryValues : ∀ properties : List (String × Node),
    Value.toEntries (entryValues properties) = .ok (entryLiterals properties)
  | [] => rfl
  | (name, node) :: rest => by
    rw [entryValues, entryLiterals, Value.toEntries, toLiteral_toValue node,
      toEntries_entryValues rest]
    rfl

end

end ToolBindings.Schema.Node
