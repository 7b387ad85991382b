import Mathlib.Logic.Relation
import ToolBindings.Proofs.Schema.Parts

/-!
# What of a message type is seen

Of a message type its fields are seen with their metadata, and whether it is the entry
type of a map; of the index those types are seen whose names are looked up. Indexes that
look the same there give the same schemas and the same errors.

* `Field.view`, `Message.view`, `TypeIndex.view?`: what is seen.
* `Field.lookups`, `LooksUp`: the names that are looked up for the fields of a type.
* `SameAt`: two indexes that look the same at all names that are looked up.
* `ofField_of_view`: a field has the same specification in both.
* `ofType_of_view`: a type has the same schema in both.
-/
namespace ToolBindings

/-! ## Views -/

/-- What is seen of a field. -/
structure FieldView where
  name : String
  number : Int32
  type : FieldType
  label : Label
  typeName : String
  /-- The metadata in the options, which are not looked at otherwise. -/
  metadata : Except Failure (Option FieldMetadata)
deriving DecidableEq

def Field.view (field : Field) : FieldView where
  name := field.name
  number := field.number
  type := field.type
  label := field.label
  typeName := field.typeName
  metadata := field.metadata

/-- What is seen of a message type. Neither its own name nor the types inside it are. -/
structure MessageView where
  fields : List FieldView
  mapEntry : Bool
deriving DecidableEq

def Message.view (message : Message) : MessageView where
  fields := message.fields.map Field.view
  mapEntry := message.mapEntry

def TypeIndex.view? (index : TypeIndex) (name : String) : Option MessageView :=
  (index.find? name).map Message.view

/-- The names that are looked up for a field: that of its type if it may be a map, and that of the
message type that it refers to. -/
def Field.lookups (index : TypeIndex) (field : Field) : List String :=
  (if field.label = .repeated ∧ field.type = .message ∧
      wellKnownTypes.lookup field.typeName = none then [field.typeName] else []) ++
    (field.refersTo index).toList

/-- A name is looked up for some field of a message type. -/
def LooksUp (index : TypeIndex) (name target : String) : Prop :=
  ∃ message, index.find? name = some message ∧ ∃ field ∈ message.fields,
    target ∈ field.lookups index

/-- Indexes that look the same at some names, among them all names that are looked up from there. -/
structure SameAt (seen : String → Prop) (index other : TypeIndex) : Prop where
  closed : ∀ {name target}, seen name → LooksUp index name target → seen target
  same : ∀ {name}, seen name → index.view? name = other.view? name

/-! ## Fields -/

section
variable {index other : TypeIndex} {owner : String} {field field' : Field}

theorem elementType_of_view (h : field.view = field'.view) :
    field.elementType owner = field'.elementType owner := by
  unfold Field.view at h
  simp only [FieldView.mk.injEq] at h
  obtain ⟨hname, -, htype, -, htypeName, -⟩ := h
  unfold Field.elementType
  rw [hname, htype, htypeName]

theorem view_fieldNumbered? (message : Message) (number : Int32) :
    (message.fieldNumbered? number).map Field.view =
      message.view.fields.reverse.find? (·.number == number) := by
  unfold Message.fieldNumbered? Message.view
  rw [← List.map_reverse, List.find?_map]
  rfl

/-- Entry types that look the same make the same maps. -/
theorem ofEntry_of_view {name : String} {entry entry' : Message} (h : entry.view = entry'.view) :
    FieldSpec.ofEntry name entry = FieldSpec.ofEntry name entry' := by
  have hnumbered : ∀ number, (entry.fieldNumbered? number).map Field.view =
      (entry'.fieldNumbered? number).map Field.view := by
    intro number
    rw [view_fieldNumbered?, view_fieldNumbered?, h]
  have hkey := hnumbered 1
  have hvalue := hnumbered 2
  unfold FieldSpec.ofEntry
  generalize entry.fieldNumbered? 1 = key at *
  generalize entry'.fieldNumbered? 1 = key' at *
  generalize entry.fieldNumbered? 2 = value at *
  generalize entry'.fieldNumbered? 2 = value' at *
  cases key <;> cases key' <;> try cases hkey
  · rfl
  cases value <;> cases value' <;> try cases hvalue
  · rfl
  · next key key' value value' =>
    rw [Option.map_some, Option.map_some, Option.some.injEq] at hkey hvalue
    have htype : key.type = key'.type := congrArg FieldView.type hkey
    simp only [htype, elementType_of_view hvalue]

/-- A name at which two indexes look the same stands for types that look the same, or for none. -/
theorem resolve_of_view {name : String} (h : index.view? name = other.view? name) :
    (∃ message message', index.resolve name = .ok message ∧ other.resolve name = .ok message' ∧
        message.view = message'.view) ∨
      ∃ failure, index.resolve name = .error failure ∧ other.resolve name = .error failure := by
  unfold TypeIndex.view? at h
  unfold TypeIndex.resolve
  cases hm : index.find? name with
  | none =>
    rw [hm, Option.map_none, eq_comm, Option.map_eq_none_iff] at h
    exact .inr ⟨_, rfl, by rw [h]⟩
  | some message =>
    rw [hm, Option.map_some, eq_comm, Option.map_eq_some_iff] at h
    obtain ⟨message', hm', hv⟩ := h
    exact .inl ⟨message, message', rfl, by rw [hm'], hv.symm⟩

theorem classify_of_view (h : field.view = field'.view)
    (hs : ∀ name ∈ field.lookups index, index.view? name = other.view? name) :
    FieldSpec.classify index owner field = FieldSpec.classify other owner field' := by
  have helement : ∀ owner, field.elementType owner = field'.elementType owner := fun _ =>
    elementType_of_view h
  unfold Field.view at h
  simp only [FieldView.mk.injEq] at h
  obtain ⟨hname, -, htype, hlabel, htypeName, -⟩ := h
  unfold Field.lookups at hs
  unfold FieldSpec.classify Field.mapEntryType
  simp only [← helement, ← hname, ← htype, ← hlabel, ← htypeName]
  by_cases hmap : field.label = .repeated ∧ field.type = .message ∧
      wellKnownTypes.lookup field.typeName = none
  · simp only [if_pos hmap] at hs ⊢
    have hsame := hs field.typeName (List.mem_append_left _ List.mem_cons_self)
    obtain ⟨message, message', hm, hm', hv⟩ | ⟨failure, hf, hf'⟩ := resolve_of_view hsame
    · have hentry : message.mapEntry = message'.mapEntry := congrArg MessageView.mapEntry hv
      rw [hm, hm']
      simp only [Except.map, ← hentry]
      cases message.mapEntry
      · rfl
      · exact ofEntry_of_view hv
    · rw [hf, hf']
  · simp only [if_neg hmap]

/-- A field that looks the same has the same specification, if the names that are looked up for it
do. -/
theorem ofField_of_view (h : field.view = field'.view)
    (hs : ∀ name ∈ field.lookups index, index.view? name = other.view? name) :
    FieldSpec.ofField index owner field = FieldSpec.ofField other owner field' := by
  have hmetadata : field.metadata = field'.metadata := congrArg FieldView.metadata h
  have hname : field.name = field'.name := congrArg FieldView.name h
  unfold FieldSpec.ofField
  rw [hmetadata, classify_of_view h hs, hname]

end

/-! ## Schemas -/

namespace Schema

section
variable {seen : String → Prop} {index other : TypeIndex} {active : List String} {name : String}

/-- A type has the same schema in both indexes if what its fields become is the same. -/
theorem ofType_of_fields (hs : index.view? name = other.view? name)
    (h : ∀ message message' : Message, index.find? name = some message →
      message.view = message'.view →
      (expandFields index (name :: active) (withoutDots name) message.fields).result =
        (expandFields other (name :: active) (withoutDots name) message'.fields).result) :
    (ofType index active name).result = (ofType other active name).result := by
  unfold ofType
  rw [Logged.result_bind, Logged.result_bind, Logged.result_ofExcept, Logged.result_ofExcept]
  obtain ⟨message, message', hm, hm', hv⟩ | ⟨failure, hf, hf'⟩ := resolve_of_view hs
  · have hfields := h message message' (resolve_eq_ok.1 hm) hv
    simp only [hm, hm', bind, Except.bind, Logged.result_map, hfields]
  · rw [hf, hf']
    rfl

/-- Fields that look the same become the same. The outer induction is on the number of types that
can still be entered, the inner one on the fields. -/
theorem expandFields_of_view (hsame : SameAt seen index other) {fields fields' : List Field}
    {owner : String} (hv : fields.map Field.view = fields'.map Field.view)
    (hl : ∀ field ∈ fields, ∀ name ∈ field.lookups index, seen name) :
    (expandFields index active owner fields).result =
      (expandFields other active owner fields').result := by
  induction hn : unexpanded index active using Nat.strongRecOn
    generalizing active owner fields fields' with
  | _ n ih =>
    subst hn
    induction fields generalizing fields' with
    | nil =>
      obtain rfl : fields' = [] := by simpa using hv.symm
      rw [expandFields_nil, expandFields_nil]
    | cons field rest ihrest =>
      obtain ⟨field', rest', rfl, hfield, hrest⟩ := List.map_eq_cons_iff.1 hv.symm
      have hlookups := hl field List.mem_cons_self
      have hspec : FieldSpec.ofField index owner field = FieldSpec.ofField other owner field' :=
        ofField_of_view hfield.symm fun name hm => hsame.same (hlookups name hm)
      have hothers := ihrest hrest.symm fun f hm => hl f (List.mem_cons_of_mem _ hm)
      simp only [expandFields_cons, Logged.result_bind, Logged.result_ofExcept, ← hspec, hothers]
      refine bind_congr_of_ok fun spec hs => ?_
      have hvalue : (valueNode index active spec.typeRef).result =
          (valueNode other active spec.typeRef).result := by
        have href := typeRef_eq_message hs
        cases htype : spec.typeRef with
        | object => rfl
        | scalar type => rfl
        | message target =>
          unfold valueNode
          simp only
          split
          · rfl
          next ha =>
          have hseen : seen target := hlookups target <| List.mem_append_right _ <| by
            rw [Option.mem_toList]
            exact (href target).1 htype
          refine ofType_of_fields (hsame.same hseen) fun message message' hm hv => ?_
          have hlt := unexpanded_cons_lt (TypeIndex.mem_names_of_find hm) ha
          refine ih _ hlt (congrArg MessageView.fields hv) (fun f hf name hname => ?_) rfl
          exact hsame.closed hseen ⟨message, hm, f, hf, hname⟩
      rw [hvalue]

/-- A type that is seen has the same schema in indexes that look the same. -/
theorem ofType_of_view (hsame : SameAt seen index other) (hseen : seen name) :
    (ofType index active name).result = (ofType other active name).result :=
  ofType_of_fields (hsame.same hseen) fun message _ hm hv =>
    expandFields_of_view hsame (congrArg MessageView.fields hv) fun field hf _ ht =>
      hsame.closed hseen ⟨message, hm, field, hf, ht⟩

end

end Schema

end ToolBindings
