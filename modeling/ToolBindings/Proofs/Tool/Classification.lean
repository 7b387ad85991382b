import ToolBindings.Proofs.Journal.Success
import ToolBindings.Schema.Node
import ToolBindings.Tool.FieldSpec

/-!
# What fields refer to

A field says in its descriptor whether it is a list or a map and which message type its
values have. `Field.refersTo` and `Field.nodeType` read this off without any error;
where a field is accepted, its specification says the same.

* `Field.messageType?`, `Field.entryType?`: the type of a single value, and the entry type
  of a map.
* `Field.stated`, `stated_of_ofField`: what a field says of itself, and its specification of it.
* `typeRef_eq_message`: the specification of a field refers to `Field.refersTo`.
* `kind_of_ofField`: its kind and the type of its values give `Field.nodeType`.
-/
namespace ToolBindings

/-! ## Reading a descriptor -/

namespace Field

/-- The message type of a single value of the field, if the type has no JSON form of its own. Names
of message types begin with a dot; any other name stands for itself. -/
def messageType? (field : Field) : Option String :=
  if field.type = .message ∧ wellKnownTypes.lookup field.typeName = none ∧
      field.typeName.toList.head? = some '.' then some field.typeName
  else none

def entryType? (index : TypeIndex) (field : Field) : Option Message :=
  if field.label = .repeated ∧ field.type = .message ∧
      wellKnownTypes.lookup field.typeName = none then
    (index.find? field.typeName).filter (·.mapEntry)
  else none

/-- The message type that a field refers to, directly, by its elements or by its values. -/
def refersTo (index : TypeIndex) (field : Field) : Option String :=
  match field.entryType? index with
  | some entry => (entry.fieldNumbered? 2).bind messageType?
  | none => field.messageType?

/-- The type of the node for a single value of the field. -/
def valueType (field : Field) : String :=
  match field.type.jsonType? with
  | some jsonType => jsonType
  | none =>
    if field.messageType?.isSome then Schema.objectType
    else (wellKnownTypes.lookup field.typeName).getD field.typeName

def nodeType (index : TypeIndex) (field : Field) : String :=
  if (field.entryType? index).isSome then Schema.objectType
  else if field.label = .repeated then Schema.arrayType
  else field.valueType

end Field

def TypeRef.nodeType : TypeRef → String
  | object | message _ => Schema.objectType
  | scalar name => name

/-! ## Single values -/

variable {index : TypeIndex} {owner : String} {field : Field}

theorem resolve_eq_ok {name : String} {message : Message} :
    index.resolve name = .ok message ↔ index.find? name = some message := by
  unfold TypeIndex.resolve
  cases index.find? name with
  | none => exact ⟨nofun, nofun⟩
  | some found => rw [Option.some.injEq, Except.ok.injEq]

theorem jsonType_message : FieldType.message.jsonType? = none := rfl

/-- No JSON form of a message type looks like the name of a message type. -/
theorem head_of_wellKnown {name jsonType : String}
    (h : wellKnownTypes.lookup name = some jsonType) : jsonType.toList.head? ≠ some '.' := by
  have hall : ∀ entry ∈ wellKnownTypes, entry.2.toList.head? ≠ some '.' := by decide
  obtain ⟨before, after, hl, -⟩ := List.lookup_eq_some_iff.1 h
  exact hall (name, jsonType) (by rw [hl]; simp)

theorem ofName_eq_message {name target : String} :
    TypeRef.ofName name = .message target ↔ name.toList.head? = some '.' ∧ target = name := by
  unfold TypeRef.ofName
  split
  · next h => subst h; exact ⟨nofun, fun h => absurd h.1 (by decide)⟩
  · split
    · next h => rw [TypeRef.message.injEq, eq_comm]; exact ⟨fun he => ⟨h, he⟩, fun he => he.2⟩
    · next h => exact ⟨nofun, fun he => absurd he.1 h⟩

theorem ofName_eq_scalar {name type : String} (h : TypeRef.ofName name = .scalar type) :
    type = name ∧ name ≠ "object" ∧ name.toList.head? ≠ some '.' := by
  unfold TypeRef.ofName at h
  split at h
  · cases h
  next hobject =>
  split at h
  · cases h
  next hdot =>
  cases h
  exact ⟨rfl, hobject, hdot⟩

theorem nodeType_ofName {name : String} (h : name.toList.head? ≠ some '.') :
    (TypeRef.ofName name).nodeType = name := by
  unfold TypeRef.ofName
  split
  · next he => exact he.symm
  · rfl

/-- The type of a single value refers to the field's message type. -/
theorem elementType_eq_message {ref : TypeRef} (h : field.elementType owner = .ok ref)
    (target : String) : ref = .message target ↔ field.messageType? = some target := by
  unfold Field.elementType at h
  unfold Field.messageType?
  cases hj : field.type.jsonType? with
  | some jsonType =>
    have hm : field.type ≠ .message := fun he => by rw [he, jsonType_message] at hj; cases hj
    rw [hj] at h
    cases h
    rw [if_neg fun hc => hm hc.1]
    exact ⟨nofun, nofun⟩
  | none =>
    simp only [hj] at h
    split at h
    · next hm =>
      cases h
      rw [ofName_eq_message]
      cases hw : wellKnownTypes.lookup field.typeName with
      | some jsonType =>
        rw [if_neg fun hc => by cases hc.2.1]
        exact ⟨fun hc => absurd hc.1 (head_of_wellKnown hw), nofun⟩
      | none =>
        rw [Option.getD_none]
        by_cases hd : field.typeName.toList.head? = some '.'
        · rw [if_pos ⟨hm, rfl, hd⟩, Option.some.injEq]
          exact ⟨fun hc => hc.2.symm, fun he => ⟨hd, he.symm⟩⟩
        · rw [if_neg fun hc => hd hc.2.2]
          exact ⟨fun hc => absurd hc.1 hd, nofun⟩
    · cases h

theorem nodeType_of_elementType {ref : TypeRef} (h : field.elementType owner = .ok ref) :
    ref.nodeType = field.valueType := by
  have hm := elementType_eq_message h
  unfold Field.valueType
  cases hs : field.messageType? with
  | some target =>
    rw [(hm target).2 hs]
    unfold Field.messageType? at hs
    split at hs
    · next hc => rw [hc.1, jsonType_message]; rfl
    · cases hs
  | none =>
    unfold Field.elementType at h
    cases hj : field.type.jsonType? with
    | some jsonType => rw [hj] at h; cases h; rfl
    | none =>
      simp only [hj] at h
      split at h
      · cases h
        refine nodeType_ofName fun hd => ?_
        have he := (hm _).1 (ofName_eq_message.2 ⟨hd, rfl⟩)
        rw [hs] at he
        cases he
      · cases h

/-- No single value is a scalar that goes by the name of objects. -/
theorem elementType_ne_object : field.elementType owner ≠ .ok (.scalar Schema.objectType) := by
  intro h
  unfold Field.elementType at h
  split at h
  · next jsonType hj =>
    have hall : ∀ type : FieldType, type.jsonType? ≠ some Schema.objectType := by
      intro type; cases type <;> decide
    rw [Except.ok.injEq, TypeRef.scalar.injEq] at h
    exact hall _ (h ▸ hj)
  · split at h
    · rw [Except.ok.injEq] at h
      obtain ⟨hname, hobject, -⟩ := ofName_eq_scalar h
      exact hobject hname.symm
    · cases h

/-! ## Lists and maps -/

theorem mapEntryType_eq_ok {found? : Option Message} (h : field.mapEntryType index = .ok found?) :
    found? = field.entryType? index := by
  unfold Field.mapEntryType at h
  unfold Field.entryType?
  split at h
  · next hc =>
    obtain ⟨entry, he, rfl⟩ := map_eq_ok.1 h
    rw [if_pos hc, resolve_eq_ok.1 he]
    cases hme : entry.mapEntry <;> simp [Option.filter, hme]
  · next hc => cases h; rw [if_neg hc]

theorem ofEntry_eq_ok {name : String} {entry : Message} {kind : FieldKind} {ref : TypeRef} :
    FieldSpec.ofEntry name entry = .ok (kind, ref) ↔
      ∃ key value, entry.fieldNumbered? 1 = some key ∧ entry.fieldNumbered? 2 = some value ∧
        key.type.isKey = true ∧ value.elementType name = .ok ref ∧ kind = .map := by
  unfold FieldSpec.ofEntry
  cases entry.fieldNumbered? 1 with
  | none =>
    constructor
    · intro h; cases h
    · intro h
      obtain ⟨_, _, h, -⟩ := h
      cases h
  | some key =>
    cases entry.fieldNumbered? 2 with
    | none =>
      constructor
      · intro h; cases h
      · intro h
        obtain ⟨_, _, -, h, -⟩ := h
        cases h
    | some value =>
      cases hk : key.type.isKey with
      | false =>
        simp only [hk, Bool.false_eq_true, if_false, reduceCtorEq, false_iff]
        intro h
        obtain ⟨_, _, h1, -, h2, -⟩ := h
        cases h1
        rw [hk] at h2
        cases h2
      | true =>
        simp only [hk, if_true, map_eq_ok, Prod.mk.injEq]
        constructor
        · intro h
          obtain ⟨_, he, rfl, rfl⟩ := h
          exact ⟨key, value, rfl, rfl, hk, he, rfl⟩
        · intro h
          obtain ⟨_, _, h1, h2, -, he, rfl⟩ := h
          cases h1
          cases h2
          exact ⟨ref, he, rfl, rfl⟩

/-- What the classification of a field says, field by field of the descriptor. -/
theorem classify_eq_ok {kind : FieldKind} {ref : TypeRef}
    (h : FieldSpec.classify index owner field = .ok (kind, ref)) :
    (∀ target, ref = .message target ↔ field.refersTo index = some target) ∧
      ((kind = .map ∧ (field.entryType? index).isSome = true) ∨
        (field.entryType? index = none ∧ ref.nodeType = field.valueType ∧
          (kind = .repeated ↔ field.label = .repeated) ∧ kind ≠ .map)) := by
  unfold FieldSpec.classify at h
  obtain ⟨found?, hentry, h⟩ := bind_eq_ok.1 h
  obtain rfl := mapEntryType_eq_ok hentry
  unfold Field.refersTo
  cases he : field.entryType? index with
  | some entry =>
    rw [he] at h
    obtain ⟨key, value, -, hv, -, ht, rfl⟩ := ofEntry_eq_ok.1 h
    refine ⟨fun target => ?_, .inl ⟨rfl, rfl⟩⟩
    simp only [hv, Option.bind_some]
    exact elementType_eq_message ht target
  | none =>
    rw [he] at h
    obtain ⟨_, ht, h⟩ := bind_eq_ok.1 h
    split at h
    · next hl =>
      cases h
      exact ⟨elementType_eq_message ht, .inr ⟨rfl, nodeType_of_elementType ht, by simp [hl], nofun⟩⟩
    next hl =>
    split at h <;> cases h <;>
      exact ⟨elementType_eq_message ht, .inr ⟨rfl, nodeType_of_elementType ht, by simp [hl], nofun⟩⟩

/-! ## Specifications -/

/-- What the options of a field say of it, if there is metadata in them that can be read. -/
def FieldMetadata.stated? (options : Octets) : Option FieldMetadata :=
  (completeOptions options >>= FieldMetadata.ofOptions).toOption.join

/-- What a field says of itself; without metadata it says nothing. -/
def Field.stated (field : Field) : FieldMetadata :=
  (FieldMetadata.stated? field.options).getD {}

section
variable {spec : FieldSpec}

/-- A field is accepted exactly if its metadata and its type are. -/
theorem ofField_eq_ok :
    FieldSpec.ofField index owner field = .ok spec ↔
      ∃ metadata? kind typeRef, field.metadata = .ok metadata? ∧
        FieldSpec.classify index owner field = .ok (kind, typeRef) ∧
        spec = {
          name := field.name, kind, typeRef
          description := (metadata?.getD {}).description
          sample := (metadata?.getD {}).sample
          required := (metadata?.getD {}).required
          annotated := metadata?.isSome } := by
  simp only [FieldSpec.ofField, bind_eq_ok, pure_eq_ok, eq_comm (a := spec)]
  constructor
  · intro h
    obtain ⟨metadata?, hm, ⟨kind, ref⟩, hc, h⟩ := h
    exact ⟨metadata?, kind, ref, hm, hc, h⟩
  · intro h
    obtain ⟨metadata?, kind, ref, hm, hc, h⟩ := h
    exact ⟨metadata?, hm, ⟨kind, ref⟩, hc, h⟩

theorem name_of_ofField (h : FieldSpec.ofField index owner field = .ok spec) :
    spec.name = field.name := by
  obtain ⟨_, _, _, -, -, rfl⟩ := ofField_eq_ok.1 h
  rfl

/-- A specification says of the field what the field says of itself. -/
theorem stated_of_ofField (h : FieldSpec.ofField index owner field = .ok spec) :
    spec.description = field.stated.description ∧ spec.sample = field.stated.sample ∧
      spec.required = field.stated.required ∧
      spec.annotated = (FieldMetadata.stated? field.options).isSome := by
  obtain ⟨metadata?, _, _, hm, -, rfl⟩ := ofField_eq_ok.1 h
  have hstated : FieldMetadata.stated? field.options = metadata? := by
    have hoptions : completeOptions field.options >>= FieldMetadata.ofOptions = .ok metadata? := hm
    rw [FieldMetadata.stated?, hoptions]
    rfl
  unfold Field.stated
  rw [hstated]
  exact ⟨rfl, rfl, rfl, rfl⟩

theorem typeRef_eq_message (h : FieldSpec.ofField index owner field = .ok spec) (target : String) :
    spec.typeRef = .message target ↔ field.refersTo index = some target := by
  obtain ⟨_, _, _, -, hc, rfl⟩ := ofField_eq_ok.1 h
  exact (classify_eq_ok hc).1 target

/-- The reference of a field is the type of a single value of the field itself, or of the value
field of its entries. -/
theorem elementType_of_ofField (h : FieldSpec.ofField index owner field = .ok spec) :
    ∃ owner element, element.elementType owner = .ok spec.typeRef ∧
      (element = field ∨ ∃ name entry, index.find? name = some entry ∧ element ∈ entry.fields) := by
  obtain ⟨_, kind, ref, -, hc, rfl⟩ := ofField_eq_ok.1 h
  unfold FieldSpec.classify at hc
  obtain ⟨found?, hentry, hc⟩ := bind_eq_ok.1 hc
  cases found? with
  | some entry =>
    obtain ⟨_, value, -, hv, -, ht, -⟩ := ofEntry_eq_ok.1 hc
    refine ⟨_, value, ht, .inr ⟨field.typeName, entry, ?_, ?_⟩⟩
    · have hfound := mapEntryType_eq_ok hentry
      unfold Field.entryType? at hfound
      split at hfound
      · exact (Option.filter_eq_some_iff.1 hfound.symm).1
      · cases hfound
    · exact List.mem_reverse.1 (List.mem_of_find?_eq_some hv)
  | none =>
    obtain ⟨_, ht, hc⟩ := bind_eq_ok.1 hc
    refine ⟨owner, field, ?_, .inl rfl⟩
    split at hc
    · cases hc; exact ht
    · split at hc <;> cases hc <;> exact ht

theorem typeRef_ne_object (h : FieldSpec.ofField index owner field = .ok spec) :
    spec.typeRef ≠ .scalar Schema.objectType := by
  obtain ⟨_, _, ht, -⟩ := elementType_of_ofField h
  intro he
  rw [he] at ht
  exact elementType_ne_object ht

theorem kind_of_ofField (h : FieldSpec.ofField index owner field = .ok spec) :
    (spec.kind = .map ∧ field.nodeType index = Schema.objectType) ∨
      (spec.kind = .repeated ∧ field.nodeType index = Schema.arrayType) ∨
      ((spec.kind = .scalar ∨ spec.kind = .message) ∧
        field.nodeType index = spec.typeRef.nodeType) := by
  obtain ⟨_, kind, ref, -, hc, rfl⟩ := ofField_eq_ok.1 h
  unfold Field.nodeType
  rcases (classify_eq_ok hc).2 with ⟨rfl, he⟩ | ⟨he, ht, hr, hm⟩
  · exact .inl ⟨rfl, if_pos he⟩
  · rw [he, Option.isSome_none, if_neg Bool.false_ne_true]
    by_cases hl : field.label = .repeated
    · exact .inr (.inl ⟨hr.2 hl, if_pos hl⟩)
    · refine .inr (.inr ⟨?_, by rw [if_neg hl]; exact ht.symm⟩)
      cases kind with
      | scalar => exact .inl rfl
      | message => exact .inr rfl
      | repeated => exact absurd (hr.1 rfl) hl
      | map => exact absurd rfl hm

end

end ToolBindings
