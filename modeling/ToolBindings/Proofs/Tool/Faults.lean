import ToolBindings.Proofs.Tool.Residue

/-!
# What can go wrong, and where

Everything that fails on the way to the tools of a file fails for metadata that cannot be
read, or else for a reason to refuse the request; and the reason lies in something that was
looked at.

* `Accounted`: the two kinds of failures.
* `FieldFault`, `TypeFault`, `MethodFault`: reasons for refusal in a field, a message type and
  a method.
* `Schema.Visits`, `File.Visits`: the message types that are looked at, up to the first failure.
* `ofField_eq_error`, `Schema.ofType_eq_error`, `tools_eq_error`, `toolsWithSchemas_eq_error`: every
  failure is accounted for.
-/
namespace ToolBindings

/-- A failure of metadata that cannot be read, or with a reason to refuse the request. -/
inductive Accounted (Unreadable : Failure → Prop) (Refused : Rejection → Prop) : Failure → Prop
  | unreadable {failure : Failure} (h : Unreadable failure) : Accounted Unreadable Refused failure
  | refused {reason : Rejection} (h : Refused reason) :
    Accounted Unreadable Refused (.rejected reason)

theorem Accounted.imp {Unreadable Unreadable' : Failure → Prop}
    {Refused Refused' : Rejection → Prop} {failure : Failure}
    (h : Accounted Unreadable Refused failure)
    (hu : ∀ failure, Unreadable failure → Unreadable' failure)
    (hr : ∀ reason, Refused reason → Refused' reason) : Accounted Unreadable' Refused' failure := by
  cases h with
  | unreadable h => exact .unreadable (hu _ h)
  | refused h => exact .refused (hr _ h)

/-! ## Fields -/

/-- What is wrong with a field: its type, or the key or the value of the entries of a map. -/
inductive FieldFault (index : TypeIndex) (owner : String) (field : Field) : Rejection → Prop
  | unresolvedType (h : index.find? field.typeName = none) :
    FieldFault index owner field (.shape (.unresolvedType field.typeName))
  | unsupportedType (hj : field.type.jsonType? = none) (hm : field.type ≠ .message) :
    FieldFault index owner field (.shape (.unsupportedType (owner ++ "." ++ field.name) field.type))
  | malformedEntry {entry : Message} (he : field.entryType? index = some entry)
    (h : entry.fieldNumbered? 1 = none ∨ entry.fieldNumbered? 2 = none) :
    FieldFault index owner field (.shape (.malformedEntry (owner ++ "." ++ field.name)))
  | unsupportedKey {entry : Message} {key : Field} (he : field.entryType? index = some entry)
    (hk : entry.fieldNumbered? 1 = some key) (h : key.type.isKey = false) :
    FieldFault index owner field (.shape (.unsupportedKey (owner ++ "." ++ field.name) key.type))
  | unsupportedValue {entry : Message} {value : Field} (he : field.entryType? index = some entry)
    (hv : entry.fieldNumbered? 2 = some value) (hj : value.type.jsonType? = none)
    (hm : value.type ≠ .message) :
    FieldFault index owner field
      (.shape (.unsupportedType (owner ++ "." ++ field.name ++ "." ++ value.name) value.type))

section
variable {index : TypeIndex} {owner name : String} {field : Field} {failure : Failure}

theorem resolve_eq_error (h : index.resolve name = .error failure) :
    index.find? name = none ∧ failure = .rejected (.shape (.unresolvedType name)) := by
  unfold TypeIndex.resolve at h
  split at h
  · cases h
  · next hn => cases h; exact ⟨hn, rfl⟩

theorem elementType_eq_error (h : field.elementType owner = .error failure) :
    field.type.jsonType? = none ∧ field.type ≠ .message ∧
      failure = .rejected (.shape (.unsupportedType (owner ++ "." ++ field.name) field.type)) := by
  unfold Field.elementType at h
  split at h
  · cases h
  next hj =>
  split at h
  · cases h
  · next hm => cases h; exact ⟨hj, hm, rfl⟩

theorem classify_eq_error (h : FieldSpec.classify index owner field = .error failure) :
    ∃ reason, failure = .rejected reason ∧ FieldFault index owner field reason := by
  obtain h | ⟨found, hentry, h⟩ := bind_eq_error.1 h
  · unfold Field.mapEntryType at h
    split at h
    · obtain ⟨hn, rfl⟩ := resolve_eq_error (map_eq_error.1 h)
      exact ⟨_, rfl, .unresolvedType hn⟩
    · cases h
  have he := mapEntryType_eq_ok hentry
  cases found with
  | none =>
    obtain h | ⟨ref, -, h⟩ := bind_eq_error.1 h
    · obtain ⟨hj, hm, rfl⟩ := elementType_eq_error h
      exact ⟨_, rfl, .unsupportedType hj hm⟩
    · split at h
      · cases h
      split at h <;> cases h
  | some entry =>
    simp only [FieldSpec.ofEntry] at h
    split at h
    · next key value hk hv =>
      split at h
      · obtain ⟨hj, hm, rfl⟩ := elementType_eq_error (map_eq_error.1 h)
        exact ⟨_, rfl, .unsupportedValue he.symm hv hj hm⟩
      · next hkey => cases h; exact ⟨_, rfl, .unsupportedKey he.symm hk (by simpa using hkey)⟩
    · next hnone =>
      cases h
      refine ⟨_, rfl, .malformedEntry he.symm ?_⟩
      cases hk : entry.fieldNumbered? 1 with
      | none => exact .inl rfl
      | some key =>
        cases hv : entry.fieldNumbered? 2 with
        | none => exact .inr rfl
        | some value => exact absurd hv (hnone key value hk)

theorem ofField_eq_error (h : FieldSpec.ofField index owner field = .error failure) :
    Accounted (fun failure => field.metadata = .error failure) (FieldFault index owner field)
      failure := by
  obtain h | ⟨metadata?, -, h⟩ := bind_eq_error.1 h
  · exact .unreadable h
  obtain h | ⟨_, -, h⟩ := bind_eq_error.1 h
  · obtain ⟨reason, rfl, hreason⟩ := classify_eq_error h
    exact .refused hreason
  · cases h

end

/-! ## Message types -/

/-- A field of the message type has metadata that cannot be read. -/
def UnreadableField (index : TypeIndex) (name : String) (failure : Failure) : Prop :=
  ∃ message, index.find? name = some message ∧
    ∃ field ∈ message.fields, field.metadata = .error failure

/-- What is wrong with a message type: it does not exist, or one of its fields is at fault. -/
inductive TypeFault (index : TypeIndex) (name : String) : Rejection → Prop
  | unresolvedType (h : index.find? name = none) :
    TypeFault index name (.shape (.unresolvedType name))
  | field {message : Message} {field : Field} {reason : Rejection}
    (hmessage : index.find? name = some message) (hfield : field ∈ message.fields)
    (h : FieldFault index (withoutDots name) field reason) : TypeFault index name reason

theorem accounted_of_ofField {index : TypeIndex} {name : String} {message : Message} {field : Field}
    {failure : Failure} (hmessage : index.find? name = some message)
    (hfield : field ∈ message.fields)
    (h : FieldSpec.ofField index (withoutDots name) field = .error failure) :
    Accounted (UnreadableField index name) (TypeFault index name) failure :=
  (ofField_eq_error h).imp (fun _ h => ⟨message, hmessage, field, hfield, h⟩)
    fun _ h => .field hmessage hfield h

namespace Schema

/-- The message types that are looked at to describe a type, while those in `active` are being
expanded: the type itself, and what is looked at for those of its fields that the expansion comes
to. -/
inductive Visits (index : TypeIndex) : List String → String → String → Prop
  | self {active : List String} {name : String} : Visits index active name name
  | field {active : List String} {name inner target : String} {message : Message}
    {before after : List Field} {field : Field} {spec : FieldSpec}
    (hmessage : index.find? name = some message)
    (hfields : message.fields = before ++ field :: after)
    (hbefore : ∃ parts,
      (expandFields index (name :: active) (withoutDots name) before).result = .ok parts)
    (hspec : FieldSpec.ofField index (withoutDots name) field = .ok spec)
    (href : spec.typeRef = .message inner) (hinner : inner ∉ name :: active)
    (h : Visits index (name :: active) inner target) : Visits index active name target

variable {index : TypeIndex} {active : List String} {owner name : String} {failure : Failure}

/-- The first field that fails does so by itself or in what its values refer to. -/
theorem expandFields_eq_error {fields : List Field}
    (h : (expandFields index active owner fields).result = .error failure) :
    ∃ before field after, fields = before ++ field :: after ∧
      (∃ parts, (expandFields index active owner before).result = .ok parts) ∧
      (FieldSpec.ofField index owner field = .error failure ∨
        ∃ spec inner, FieldSpec.ofField index owner field = .ok spec ∧
          spec.typeRef = .message inner ∧ inner ∉ active ∧
          (ofType index active inner).result = .error failure) := by
  induction fields with
  | nil => rw [expandFields_nil] at h; cases h
  | cons field rest ih =>
    have hnil : ∃ parts, (expandFields index active owner []).result = .ok parts :=
      ⟨[], by rw [expandFields_nil]; rfl⟩
    simp only [expandFields_cons, Logged.result_bind, Logged.result_ofExcept] at h
    obtain h | ⟨spec, hspec, h⟩ := bind_eq_error.1 h
    · exact ⟨[], field, rest, rfl, hnil, .inl h⟩
    obtain h | ⟨value, hvalue, h⟩ := bind_eq_error.1 h
    · refine ⟨[], field, rest, rfl, hnil, .inr ?_⟩
      cases href : spec.typeRef with
      | object => rw [href] at h; cases h
      | scalar type => rw [href] at h; cases h
      | message inner =>
        rw [href, valueNode] at h
        split at h
        · cases h
        · next ha => exact ⟨spec, inner, hspec, href, ha, h⟩
    obtain h | ⟨_, -, h⟩ := bind_eq_error.1 h
    · obtain ⟨before, other, after, rfl, ⟨parts, hparts⟩, hother⟩ := ih h
      refine ⟨field :: before, other, after, rfl, ?_, hother⟩
      simp only [expandFields_cons, Logged.result_bind, Logged.result_ofExcept, Logged.result_pure,
        hspec, hvalue, hparts, ok_bind]
      exact ⟨_, rfl⟩
    · cases h

/-- What fails in the description of a type is a type that was looked at. The induction is on the
number of types that can still be entered. -/
theorem ofType_eq_error (ha : name ∉ active)
    (h : (ofType index active name).result = .error failure) :
    ∃ target, Visits index active name target ∧
      Accounted (UnreadableField index target) (TypeFault index target) failure := by
  induction hn : unexpanded index active using Nat.strongRecOn generalizing active name with
  | _ n ih =>
    subst hn
    unfold ofType at h
    rw [Logged.result_bind, Logged.result_ofExcept] at h
    obtain h | ⟨message, hmessage, h⟩ := bind_eq_error.1 h
    · obtain ⟨hnone, rfl⟩ := resolve_eq_error h
      exact ⟨name, .self, .refused (.unresolvedType hnone)⟩
    rw [Logged.result_map, map_eq_error] at h
    rw [resolve_eq_ok] at hmessage
    obtain ⟨before, field, after, hfields, hbefore, h | ⟨spec, inner, hspec, href, hinner, h⟩⟩ :=
      expandFields_eq_error h
    · have hfield : field ∈ message.fields := by rw [hfields]; simp
      exact ⟨name, .self, accounted_of_ofField hmessage hfield h⟩
    · have hlt := unexpanded_cons_lt (TypeIndex.mem_names_of_find hmessage) ha
      obtain ⟨target, hvisits, htarget⟩ := ih _ hlt hinner h rfl
      exact ⟨target, .field hmessage hfields hbefore hspec href hinner hvisits, htarget⟩

end Schema

/-! ## Methods -/

/-- What can be wrong with a method that carries tool metadata, beside the types that it uses: its
declaration, a required field without a description, or its tool name. -/
inductive MethodFault (file : File) (index : TypeIndex) (settings : Settings)
    (declared : String × Method) : Rejection → Prop
  | declaration {metadata : ToolMetadata} {constants : Tool.Constants} {reason : Rejection}
    (hmetadata : declared.2.metadata = .ok (some metadata))
    (h : Tool.checkDeclaration settings constants (file.ownerLabel declared.1 declared.2.name)
      (Tool.chooseName metadata declared.1 declared.2.name)
      (Naming.constantName declared.1 declared.2.name) metadata declared.2 =
        .error (.rejected reason)) :
    MethodFault file index settings declared reason
  | undescribedField {message : Message} {field : Field} {spec : FieldSpec}
    (hmessage : index.find? declared.2.input = some message) (hfield : field ∈ message.fields)
    (hspec : FieldSpec.ofField index (withoutDots declared.2.input) field = .ok spec)
    (hsettings : settings.requireDescriptions = true) (hrequired : spec.required = true)
    (h : spec.description = "") :
    MethodFault file index settings declared
      (.declaration (.undescribedField (withoutDots declared.2.input ++ "." ++ field.name)))
  | claimed {metadata : ToolMetadata} {claims : Claims} {conflict : NameConflict}
    (hmetadata : declared.2.metadata = .ok (some metadata))
    (h : claims.claim (Tool.chooseName metadata declared.1 declared.2.name)
      (file.ownerLabel declared.1 declared.2.name) = .error conflict) :
    MethodFault file index settings declared (.conflict conflict)

section
variable {file : File} {index : TypeIndex} {settings : Settings} {claims : Claims}
  {constants : Tool.Constants} {service owner name constant : String} {method : Method}
  {metadata : ToolMetadata} {declared : String × Method} {methods : List (String × Method)}
  {failure : Failure}

/-- The declaration of a method says nothing about other types. -/
theorem checkDeclaration_eq_error
    (h : Tool.checkDeclaration settings constants owner name constant metadata method =
      .error failure) :
    ∃ reason, failure = .rejected reason ∧ ∀ error, reason ≠ .shape error := by
  unfold Tool.checkDeclaration at h
  split at h
  · cases h; exact ⟨_, rfl, nofun⟩
  split at h
  · cases h; exact ⟨_, rfl, nofun⟩
  split at h
  · cases h; exact ⟨_, rfl, nofun⟩
  split at h
  · cases h; exact ⟨_, rfl, nofun⟩
  · cases h

/-- The first field that fails does so by itself or lacks a description. -/
theorem annotatedFields_eq_error {fields : List Field}
    (h : Tool.annotatedFields settings index owner fields = .error failure) :
    ∃ field ∈ fields, FieldSpec.ofField index owner field = .error failure ∨
      ∃ spec, FieldSpec.ofField index owner field = .ok spec ∧
        settings.requireDescriptions = true ∧ spec.required = true ∧ spec.description = "" ∧
        failure = .rejected (.declaration (.undescribedField (owner ++ "." ++ field.name))) := by
  induction fields with
  | nil => cases h
  | cons field rest ih =>
    rw [Tool.annotatedFields_cons] at h
    obtain h | ⟨spec, hspec, h⟩ := bind_eq_error.1 h
    · exact ⟨field, List.mem_cons_self, .inl h⟩
    split at h
    · next hnone =>
      simp only [Bool.and_eq_true, beq_iff_eq] at hnone
      cases h
      exact ⟨field, List.mem_cons_self, .inr ⟨spec, hspec, hnone.1.1, hnone.1.2, hnone.2, rfl⟩⟩
    · obtain ⟨other, hm, hother⟩ := ih (map_eq_error.1 h)
      exact ⟨other, List.mem_cons_of_mem _ hm, hother⟩

/-- A method that carries tool metadata fails in its declaration, or else in its input or for a
field without a description. -/
theorem ofMethod_eq_error (hmetadata : declared.2.metadata = .ok (some metadata))
    (h : Tool.ofMethod file index settings constants declared.1 declared.2 metadata =
      .error failure) :
    (∃ reason, failure = .rejected reason ∧ MethodFault file index settings declared reason) ∨
      (Tool.checkDeclaration settings constants (file.ownerLabel declared.1 declared.2.name)
          (Tool.chooseName metadata declared.1 declared.2.name)
          (Naming.constantName declared.1 declared.2.name) metadata declared.2 = .ok () ∧
        Accounted (UnreadableField index declared.2.input) (TypeFault index declared.2.input)
          failure) := by
  obtain h | ⟨⟨⟩, hcheck, h⟩ := bind_eq_error.1 h
  · obtain ⟨reason, rfl, -⟩ := checkDeclaration_eq_error h
    exact .inl ⟨reason, rfl, .declaration hmetadata h⟩
  obtain h | ⟨message, hmessage, h⟩ := bind_eq_error.1 h
  · obtain ⟨hnone, rfl⟩ := resolve_eq_error h
    exact .inr ⟨hcheck, .refused (.unresolvedType hnone)⟩
  rw [resolve_eq_ok] at hmessage
  obtain h | ⟨_, -, h⟩ := bind_eq_error.1 h
  · obtain ⟨field, hfield, h | ⟨spec, hspec, hsettings, hrequired, hnone, rfl⟩⟩ :=
      annotatedFields_eq_error h
    · exact .inr ⟨hcheck, accounted_of_ofField hmessage hfield h⟩
    · exact .inl ⟨_, rfl, .undescribedField hmessage hfield hspec hsettings hrequired hnone⟩
  · cases h

/-! ## Files -/

/-- The methods that pass are walked through. -/
theorem exists_toolsAmong_of_passes
    (h : ∀ earlier declared later, methods = earlier ++ declared :: later →
      Passes file index settings (claims ++ file.claimsOf earlier)
        (file.constantsOf earlier ++ constants) declared) :
    ∃ tools, (toolsAmong file index settings claims constants methods).2.result = .ok tools := by
  obtain ⟨before, rest, rfl, hreaches, -, hfails, -⟩ :=
    toolsAmong_residue file index settings claims constants methods
  cases hresult : (toolsAmong file index settings claims constants (before ++ rest)).2.result with
  | ok tools => exact ⟨tools, rfl⟩
  | error failure =>
    obtain ⟨declared, after, rfl⟩ := List.exists_cons_of_ne_nil (hfails.2 ⟨failure, hresult⟩)
    exact absurd (h before declared after rfl) (hreaches.stops declared rfl)

/-- A walk fails at the first method that does not pass. -/
theorem toolsAmong_eq_error
    (h : (toolsAmong file index settings claims constants methods).2.result = .error failure) :
    ∃ before declared after, methods = before ++ declared :: after ∧
      Reaches file index settings claims constants before (declared :: after) ∧
      (toolsAmong file index settings (claims ++ file.claimsOf before)
        (file.constantsOf before ++ constants) (declared :: after)).2.result = .error failure := by
  induction methods generalizing claims constants with
  | nil => cases h
  | cons declared rest ih =>
    rcases toolsAmong_cons_cases file index settings claims constants declared rest with
      ⟨hpasses, -, hfails⟩ | ⟨hstops, -⟩
    · obtain ⟨before, other, after, rfl, hreaches, hother⟩ := ih ((hfails failure).1 h)
      rw [File.append_claimsOf, File.constantsOf_append] at hother
      exact ⟨declared :: before, other, after, rfl, hreaches.cons hpasses, hother⟩
    · have hstart : claims ++ file.claimsOf [] = claims := List.append_nil claims
      refine ⟨[], declared, rest, rfl, ⟨?_, ?_⟩, by rw [hstart]; exact h⟩
      · intro earlier method later he
        exact absurd he.symm (by simp)
      · rintro _ ⟨⟩
        rw [hstart]
        exact hstops

theorem passes_of_ofDeclaration {found : Option Tool}
    (h : Tool.ofDeclaration file index settings declared = .ok found)
    (hconstant : ∀ tool ∈ found, constants.lookup tool.constantName = none)
    (hclaim : ∀ tool ∈ found, claims.lookup tool.name = none) :
    Passes file index settings claims constants declared := by
  obtain ⟨hclaims, hconstants⟩ := names_eq_of_ofDeclaration h
  refine ⟨⟨found, h⟩, ?_, ?_⟩
  · rw [hconstants]
    rintro _ ho
    obtain ⟨tool, ht, rfl⟩ := Option.map_eq_some_iff.1 ho
    exact hconstant tool ht
  · rw [hclaims]
    rintro _ ho
    obtain ⟨tool, ht, rfl⟩ := Option.map_eq_some_iff.1 ho
    exact hclaim tool ht

/-- A method that does not pass has metadata that cannot be read, or it is at fault, or its input
is. -/
theorem failure_of_not_passes (hstops : ¬Passes file index settings claims constants declared)
    (h : (toolsAmong file index settings claims constants (declared :: methods)).2.result =
      .error failure) :
    Accounted (fun failure => declared.2.metadata = .error failure)
        (MethodFault file index settings declared) failure ∨
      ∃ metadata, declared.2.metadata = .ok (some metadata) ∧
        Tool.checkDeclaration settings constants (file.ownerLabel declared.1 declared.2.name)
          (Tool.chooseName metadata declared.1 declared.2.name)
          (Naming.constantName declared.1 declared.2.name) metadata declared.2 = .ok () ∧
        Accounted (UnreadableField index declared.2.input) (TypeFault index declared.2.input)
          failure := by
  cases hm : declared.2.metadata with
  | error other =>
    simp only [toolsAmong, hm, Logged.result_fail, Except.error.injEq] at h
    exact .inl (.unreadable (congrArg Except.error h))
  | ok metadata? =>
    cases metadata? with
    | none =>
      refine absurd (passes_of_ofDeclaration (Tool.ofDeclaration_eq_none.2 hm) ?_ ?_) hstops
      · rintro _ ⟨⟩
      · rintro _ ⟨⟩
    | some metadata =>
      cases ho : Tool.ofMethod file index settings constants declared.1 declared.2 metadata with
      | error other =>
        simp only [toolsAmong, hm, ho, Logged.result_fail, Except.error.injEq] at h
        subst h
        obtain ⟨reason, rfl, hreason⟩ | ⟨hcheck, hinput⟩ := ofMethod_eq_error hm ho
        · exact .inl (.refused hreason)
        · exact .inr ⟨metadata, rfl, hcheck, hinput⟩
      | ok tool =>
        obtain ⟨halone, hconstant⟩ := Tool.ofMethod_constants.1 ho
        cases hc : claims.claim tool.name (file.ownerLabel declared.1 declared.2.name) with
        | error conflict =>
          simp only [toolsAmong, hm, ho, hc, Logged.reject, Logged.result_fail,
            Except.error.injEq] at h
          subst h
          obtain ⟨-, input, fields, -, -, rfl⟩ := Tool.ofMethod_eq_ok.1 ho
          exact .inl (.refused (.claimed hm hc))
        | ok later =>
          have hpasses : Passes file index settings claims constants declared := by
            have hdeclared := Tool.ofDeclaration_eq_some.2 ⟨metadata, hm, halone⟩
            refine passes_of_ofDeclaration hdeclared ?_ ?_
            · rintro _ ⟨⟩; exact hconstant
            · rintro _ ⟨⟩; exact (Claims.claim_eq_ok_iff.1 hc).1
          exact absurd hpasses hstops

/-- The message types that are looked at for the tools of a file: the inputs of methods that carry
tool metadata and are declared in order, and what is looked at to describe the inputs of tools, in
each case up to the first failure. -/
inductive File.Visits (file : File) (index : TypeIndex) (settings : Settings) (claims : Claims) :
    String → Prop
  | input {before after : List (String × Method)} {declared : String × Method}
    {metadata : ToolMetadata} (hmethods : file.methods = before ++ declared :: after)
    (hbefore : ∃ tools, (toolsAmong file index settings claims [] before).2.result = .ok tools)
    (hmetadata : declared.2.metadata = .ok (some metadata))
    (hcheck : Tool.checkDeclaration settings (file.constantsOf before)
      (file.ownerLabel declared.1 declared.2.name)
      (Tool.chooseName metadata declared.1 declared.2.name)
      (Naming.constantName declared.1 declared.2.name) metadata declared.2 = .ok ()) :
    File.Visits file index settings claims declared.2.input
  | schema {tools before after : List Tool} {tool : Tool} {target : String}
    (htools : (file.tools index settings claims).2.result = .ok tools)
    (hsplit : tools = before ++ tool :: after)
    (hbefore : ∃ complete, (withSchemas index before).result = .ok complete)
    (h : Schema.Visits index [] tool.inputType target) :
    File.Visits file index settings claims target

/-- What makes the search for the tools of a file fail: a method that cannot be read or is at fault,
or a message type that was looked at. -/
inductive FileFails (file : File) (index : TypeIndex) (settings : Settings) (claims : Claims)
    (failure : Failure) : Prop
  | method {declared : String × Method} (hmethod : declared ∈ file.methods)
    (h : Accounted (fun failure => declared.2.metadata = .error failure)
      (MethodFault file index settings declared) failure)
  | type {target : String} (hvisits : file.Visits index settings claims target)
    (h : Accounted (UnreadableField index target) (TypeFault index target) failure)

theorem tools_eq_error (h : (file.tools index settings claims).2.result = .error failure) :
    FileFails file index settings claims failure := by
  obtain ⟨before, declared, after, hmethods, hreaches, hfails⟩ := toolsAmong_eq_error h
  rw [List.append_nil] at hfails
  have hstops := hreaches.stops declared rfl
  rw [List.append_nil] at hstops
  obtain hmethod | ⟨metadata, hmetadata, hcheck, hinput⟩ := failure_of_not_passes hstops hfails
  · exact .method (by rw [hmethods]; simp) hmethod
  · exact .type (.input hmethods (exists_toolsAmong_of_passes hreaches.passes) hmetadata hcheck)
      hinput

theorem toolsWithSchemas_eq_error
    (h : (file.toolsWithSchemas index settings claims).2.result = .error failure) :
    FileFails file index settings claims failure := by
  unfold File.toolsWithSchemas at h
  rw [Logged.result_bind] at h
  obtain h | ⟨tools, htools, h⟩ := bind_eq_error.1 h
  · exact tools_eq_error h
  unfold withSchemas at h
  rw [Logged.result_mapM, mapM_eq_error] at h
  obtain ⟨before, tool, after, complete, hsplit, hbefore, h⟩ := h
  unfold Tool.withSchema at h
  rw [Logged.result_bind] at h
  obtain h | ⟨schema, -, h⟩ := bind_eq_error.1 h
  · obtain ⟨target, hvisits, htarget⟩ := Schema.ofType_eq_error List.not_mem_nil h
    refine .type (.schema htools hsplit ⟨complete, ?_⟩ hvisits) htarget
    unfold withSchemas
    rw [Logged.result_mapM]
    exact hbefore
  · cases h

end

end ToolBindings
