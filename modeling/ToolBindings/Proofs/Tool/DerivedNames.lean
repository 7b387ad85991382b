import ToolBindings.Proofs.Naming.Canonical
import ToolBindings.Proofs.Tool.Faults

/-!
# Tools without a name of their own

A method that declares no name gets one made from the names of its service and itself. There is
nothing to object to in such a name, unless it is too long.

* `ofMethod_eq_invalidToolName`: a method is refused for its tool name exactly if it does not stream
  and the name cannot be used.
* `isCanonical_toolName`, `derivedName_canonical`: the form of derived names, and what follows.
-/
namespace ToolBindings

/-! ## Methods refused for their name -/

section
variable {file : File} {index : TypeIndex} {settings : Settings} {constants : Tool.Constants}
  {service owner owner' name name' constant : String} {method : Method} {metadata : ToolMetadata}
  {field : Field}

theorem checkDeclaration_eq_invalidToolName :
    Tool.checkDeclaration settings constants owner name constant metadata method =
        .error (.rejected (.declaration (.invalidToolName owner' name'))) ↔
      method.clientStreaming = false ∧ method.serverStreaming = false ∧
        Naming.isToolName name = false ∧ owner' = owner ∧ name' = name := by
  unfold Tool.checkDeclaration
  split
  · next hstreams =>
    refine ⟨nofun, fun h => ?_⟩
    rw [h.1, h.2.1] at hstreams
    cases hstreams
  next hunary =>
  rw [Bool.or_eq_true, not_or, Bool.not_eq_true, Bool.not_eq_true] at hunary
  split
  · next hname =>
    rw [Bool.not_eq_true'] at hname
    constructor
    · rintro ⟨⟩
      exact ⟨hunary.1, hunary.2, hname, rfl, rfl⟩
    · intro h
      obtain ⟨-, -, -, rfl, rfl⟩ := h
      rfl
  next hname =>
  rw [Bool.not_eq_true', Bool.not_eq_false] at hname
  have hnot : ¬(method.clientStreaming = false ∧ method.serverStreaming = false ∧
      Naming.isToolName name = false ∧ owner' = owner ∧ name' = name) := by
    rintro ⟨-, -, h, -⟩
    rw [hname] at h
    cases h
  refine ⟨fun h => ?_, fun h => absurd h hnot⟩
  split at h
  · cases h
  split at h <;> cases h

/-- What is said about the fields of an input is not about the name of the tool. -/
theorem annotatedFields_ne_invalidToolName {fields : List Field} :
    Tool.annotatedFields settings index owner fields ≠
      .error (.rejected (.declaration (.invalidToolName owner' name'))) := by
  intro h
  obtain ⟨field, -, h | ⟨_, -, -, -, -, h⟩⟩ := annotatedFields_eq_error h
  · cases ofField_eq_error h with
    | unreadable h => exact fieldMetadata_ne_rejected field _ h
    | refused h => cases h
  · cases h

/-- A method is refused for the name of its tool exactly if it does not stream and the name,
declared or derived, cannot be used. -/
theorem ofMethod_eq_invalidToolName :
    Tool.ofMethod file index settings constants service method metadata =
        .error (.rejected (.declaration (.invalidToolName owner name))) ↔
      method.clientStreaming = false ∧ method.serverStreaming = false ∧
        Naming.isToolName (Tool.chooseName metadata service method.name) = false ∧
        owner = file.ownerLabel service method.name ∧
        name = Tool.chooseName metadata service method.name := by
  constructor
  · intro h
    obtain h | ⟨⟨⟩, -, h⟩ := bind_eq_error.1 h
    · exact checkDeclaration_eq_invalidToolName.1 h
    obtain h | ⟨input, -, h⟩ := bind_eq_error.1 h
    · obtain ⟨-, he⟩ := resolve_eq_error h
      cases he
    obtain h | ⟨fields, -, h⟩ := bind_eq_error.1 h
    · exact absurd h annotatedFields_ne_invalidToolName
    · cases h
  · intro h
    exact bind_eq_error.2 (.inl (checkDeclaration_eq_invalidToolName.2 h))

end

/-! ## Derived names -/

theorem isCanonical_toolName (service method : String) :
    Naming.IsCanonical (Naming.toolName service method) :=
  Naming.isCanonical_identifier _

/-- Whatever the names of a service and a method, the tool name made from them is canonical. It can
be used unless it has more than 64 characters, and only then is a method that declares no name, and
does not stream, refused for its name. Making a segment of a segment, or an identifier of an
identifier, changes nothing. -/
theorem derivedName_canonical (service method : String) :
    Naming.IsCanonical (Naming.toolName service method) ∧
      (Naming.isToolName (Naming.toolName service method) = true ↔
        (Naming.toolName service method).length ≤ 64) ∧
      (∀ (file : File) (index : TypeIndex) (settings : Settings) (constants : Tool.Constants)
        (declared : Method) (metadata : ToolMetadata), declared.name = method → metadata.name = "" →
        ((∃ owner name, Tool.ofMethod file index settings constants service declared metadata =
            .error (.rejected (.declaration (.invalidToolName owner name)))) ↔
          declared.clientStreaming = false ∧ declared.serverStreaming = false ∧
            64 < (Naming.toolName service method).length)) ∧
      (∀ name, Naming.segment (Naming.segment name) = Naming.segment name) ∧
      ∀ names, Naming.identifier [Naming.identifier names] = Naming.identifier names := by
  have hcanonical := isCanonical_toolName service method
  have husable := Naming.isToolName_of_isCanonical hcanonical
  refine ⟨hcanonical, husable, ?_, fun name => ?_, Naming.identifier_identifier⟩
  · rintro file index settings constants declared metadata rfl hnone
    have hchosen : Tool.chooseName metadata service declared.name =
        Naming.toolName service declared.name := if_pos hnone
    have htooLong : Naming.isToolName (Naming.toolName service declared.name) = false ↔
        64 < (Naming.toolName service declared.name).length := by
      rw [← Bool.not_eq_true, husable, Nat.not_le]
    simp only [ofMethod_eq_invalidToolName, hchosen, htooLong, exists_and_left, exists_eq,
      and_true]
  · exact Naming.segment_of_isSegment (Naming.isSegment_segment name)

end ToolBindings
