import ToolBindings.Generation
import ToolBindings.Proofs.Tool.Classification

/-!
# Where names conflict

Of all that can go wrong with a method only two checks end in a conflict of names: the one of
its constant and the claim of its tool name. Types, fields, schemas and modules fail in other ways.

* `NoConflict`: a computation that can fail, but not because of a conflict.
* `methodMetadata_ne_rejected`, `fieldMetadata_ne_rejected`: reading metadata refuses nothing.
* `Tool.conflict_of_ofMethod`: a conflict about a method by itself is one about its constant.
* `noConflict_withSchemas`, `noConflict_moduleText`: after the methods there are no conflicts.
-/
namespace ToolBindings

/-- A computation that can fail, but not because of a conflict. -/
def NoConflict {α : Type} (x : Except Failure α) : Prop :=
  ∀ conflict, x ≠ .error (.rejected (.conflict conflict))

section
variable {α β : Type}

theorem noConflict_ok (a : α) : NoConflict (.ok a) := nofun

theorem noConflict_bind {x : Except Failure α} {f : α → Except Failure β} (hx : NoConflict x)
    (hf : ∀ a, x = .ok a → NoConflict (f a)) : NoConflict (x >>= f) := by
  intro conflict h
  obtain h | ⟨a, ha, h⟩ := bind_eq_error.1 h
  · exact hx conflict h
  · exact hf a ha conflict h

theorem noConflict_map {x : Except Failure α} {f : α → β} (hx : NoConflict x) :
    NoConflict (x.map f) :=
  fun conflict h => hx conflict (map_eq_error.1 h)

theorem noConflict_mapM {f : α → Except Failure β} (hf : ∀ a, NoConflict (f a)) (xs : List α) :
    NoConflict (xs.mapM f) := by
  intro conflict h
  obtain ⟨_, x, _, _, -, -, hx⟩ := mapM_eq_error.1 h
  exact hf x conflict hx

end

/-! ## Metadata -/

theorem completeOptions_ne_rejected (options : Octets) (reason : Rejection) :
    completeOptions options ≠ .error (.rejected reason) := by
  unfold completeOptions
  split <;> nofun

theorem embeddedMessage_ne_rejected (number : Nat) (options : Octets) (reason : Rejection) :
    embeddedMessage number options ≠ .error (.rejected reason) := by
  unfold embeddedMessage
  split
  · nofun
  split
  · nofun
  split <;> nofun

theorem methodMetadata_ne_rejected (method : Method) (reason : Rejection) :
    method.metadata ≠ .error (.rejected reason) := by
  intro h
  obtain h | ⟨options, -, h⟩ := bind_eq_error.1 h
  · exact completeOptions_ne_rejected _ _ h
  obtain h | ⟨records?, -, h⟩ := bind_eq_error.1 h
  · exact embeddedMessage_ne_rejected _ _ _ h
  split at h
  · cases h
  split at h <;> cases h

theorem fieldMetadata_ne_rejected (field : Field) (reason : Rejection) :
    field.metadata ≠ .error (.rejected reason) := by
  intro h
  obtain h | ⟨options, -, h⟩ := bind_eq_error.1 h
  · exact completeOptions_ne_rejected _ _ h
  obtain h | ⟨records?, -, h⟩ := bind_eq_error.1 h
  · exact embeddedMessage_ne_rejected _ _ _ h
  split at h
  · cases h
  split at h <;> cases h

/-! ## Types and fields -/

section
variable (index : TypeIndex) (owner : String) (field : Field)

theorem noConflict_fieldMetadata : NoConflict field.metadata :=
  fun conflict => fieldMetadata_ne_rejected field (.conflict conflict)

theorem noConflict_resolve (name : String) : NoConflict (index.resolve name) := by
  unfold TypeIndex.resolve
  split <;> nofun

theorem noConflict_elementType : NoConflict (field.elementType owner) := by
  unfold Field.elementType
  split
  · nofun
  split <;> nofun

theorem noConflict_classify : NoConflict (FieldSpec.classify index owner field) := by
  have hentry : NoConflict (field.mapEntryType index) := by
    unfold Field.mapEntryType
    split
    · exact noConflict_map (noConflict_resolve index _)
    · nofun
  refine noConflict_bind hentry fun entry? _ => ?_
  split
  · unfold FieldSpec.ofEntry
    split
    · split
      · exact noConflict_map (noConflict_elementType _ _)
      · nofun
    · nofun
  · refine noConflict_bind (noConflict_elementType _ _) fun ref _ => ?_
    split
    · nofun
    split <;> nofun

theorem noConflict_ofField : NoConflict (FieldSpec.ofField index owner field) :=
  noConflict_bind (noConflict_fieldMetadata field) fun _ _ =>
    noConflict_bind (noConflict_classify index owner field) fun _ _ => noConflict_ok _

theorem noConflict_annotatedFields (settings : Settings) (fields : List Field) :
    NoConflict (Tool.annotatedFields settings index owner fields) := by
  induction fields with
  | nil => nofun
  | cons field rest ih =>
    rw [Tool.annotatedFields_cons]
    refine noConflict_bind (noConflict_ofField index owner field) fun spec _ => ?_
    split
    · nofun
    · exact noConflict_map ih

end

/-! ## Methods -/

namespace Tool

variable {file : File} {index : TypeIndex} {settings : Settings} {constants : Constants}
  {service : String} {method : Method} {metadata : ToolMetadata} {conflict : NameConflict}

/-- A method that conflicts with others by itself has a constant that is in use. -/
theorem conflict_of_ofMethod
    (h : ofMethod file index settings constants service method metadata =
      .error (.rejected (.conflict conflict))) :
    ∃ holder, constants.lookup (Naming.constantName service method.name) = some holder ∧
      conflict = {
        kind := .identifier, name := Naming.constantName service method.name, holder
        claimant := file.ownerLabel service method.name } := by
  unfold ofMethod at h
  obtain h | ⟨_, -, h⟩ := bind_eq_error.1 h
  · unfold checkDeclaration at h
    split at h
    · cases h
    split at h
    · cases h
    split at h
    · cases h
    split at h
    · next holder hl => cases h; exact ⟨holder, hl, rfl⟩
    · cases h
  · refine absurd h (noConflict_bind (noConflict_resolve index _) (fun input _ => ?_) conflict)
    exact noConflict_bind (noConflict_annotatedFields index _ settings _) fun _ _ =>
      noConflict_ok _

end Tool

/-! ## Schemas and modules -/

namespace Schema

variable {index : TypeIndex} {active : List String}

theorem noConflict_ofType_of_fields {name : String}
    (h : ∀ message, index.find? name = some message →
      NoConflict (expandFields index (name :: active) (withoutDots name) message.fields).result) :
    NoConflict (ofType index active name).result := by
  unfold ofType
  rw [Logged.result_bind, Logged.result_ofExcept]
  refine noConflict_bind (noConflict_resolve index name) fun message hm => ?_
  rw [Logged.result_map]
  exact noConflict_map (h message (resolve_eq_ok.1 hm))

/-- The outer induction is on the number of types that can still be entered, the inner one on the
fields. -/
theorem noConflict_expandFields (owner : String) (fields : List Field) :
    NoConflict (expandFields index active owner fields).result := by
  induction hn : unexpanded index active using Nat.strongRecOn generalizing active owner fields with
  | _ n ih =>
    subst hn
    induction fields with
    | nil => rw [expandFields_nil]; nofun
    | cons field rest ihrest =>
      simp only [expandFields_cons, Logged.result_bind, Logged.result_ofExcept]
      refine noConflict_bind (noConflict_ofField index owner field) fun spec _ => ?_
      refine noConflict_bind ?_ fun _ _ => noConflict_bind ihrest fun _ _ => noConflict_ok _
      cases spec.typeRef with
      | object => nofun
      | scalar type => nofun
      | message target =>
        unfold valueNode
        simp only
        split
        · nofun
        next ha =>
        refine noConflict_ofType_of_fields fun message hm => ?_
        exact ih _ (unexpanded_cons_lt (TypeIndex.mem_names_of_find hm) ha) _ _ rfl

theorem noConflict_ofType (name : String) : NoConflict (ofType index active name).result :=
  noConflict_ofType_of_fields fun _ _ => noConflict_expandFields _ _

end Schema

theorem noConflict_withSchemas (index : TypeIndex) (tools : List Tool) :
    NoConflict (withSchemas index tools).result := by
  unfold withSchemas
  rw [Logged.result_mapM]
  refine noConflict_mapM (fun tool => ?_) tools
  unfold Tool.withSchema
  rw [Logged.result_bind]
  exact noConflict_bind (Schema.noConflict_ofType _) fun _ _ => noConflict_ok _

theorem noConflict_moduleText (file : File) (settings : Settings) (tools : List Tool) :
    NoConflict (moduleText file settings tools) := by
  refine noConflict_map (noConflict_bind (noConflict_mapM (fun tool => ?_) tools) fun _ _ =>
    noConflict_ok _)
  unfold Tool.definitions?
  split <;> nofun

end ToolBindings
