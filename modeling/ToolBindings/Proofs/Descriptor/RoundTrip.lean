import ToolBindings.Descriptor.Reading
import ToolBindings.Descriptor.Writing
import ToolBindings.Proofs.Wire.Writing

/-!
# Descriptors are read as they were written

`IsWritten` says which octets stand for a value, for each kind of descriptor and up to the
whole request. A record can be left out where reading nothing gives the same value. The
octets of options have to be complete records all the way down, and nothing may lie deeper
than a number of levels below the value.

* `Field.IsWritten.read`, …, `Request.IsWritten.read`: whatever stands for a value conforms to
  the layout and is read as that value, if it is not too long.
* `Request.fits`, `Request.isWritten_toOctets`: the octets that are written for a request stand
  for it, if nothing in it lies too deep.
* `Response.ofOctets?_toOctets`: the same for answers.
-/
namespace ToolBindings
open Wire MessageKind

/-! ## What stands for a value -/

/-- What is written one level further down, if there is a level. -/
def Below {α : Type} (IsWritten : Nat → α → Octets → Prop) : Nat → α → Octets → Prop
  | 0, _, _ => False
  | lower + 1, item, octets => IsWritten lower item octets

/-- A field with so many levels below it. -/
inductive Field.IsWritten (limit : Nat) (field : Field) : Octets → Prop
  | intro {name number label type typeName options : Octets}
    (hname : Single (field.name = "") (textRecord 1 field.name) name)
    (hnumber : Single (field.number = 0) (intRecord 3 field.number) number)
    (hlabel : Single (field.label = .optional) (uintRecord 4 field.label.number) label)
    (htype : Single (field.type = .double) (uintRecord 5 field.type.number) type)
    (htypeName : Single (field.typeName = "") (textRecord 6 field.typeName) typeName)
    (hoptions : Single (field.options = []) (delimitedRecord 8 field.options) options)
    (hholds : options ≠ [] → Holds layout limit field.options (some (.message fieldOptions))) :
    IsWritten limit field (name ++ number ++ label ++ type ++ typeName ++ options)

/-- A message type with so many levels below it, which the message types inside it share. -/
def Message.IsWritten : Nat → Message → Octets → Prop
  | limit, message, octets => ∃ name fields nested mapEntry options : Octets,
    octets = name ++ fields ++ nested ++ options ∧
      Single (message.name = "") (textRecord 1 message.name) name ∧
      Repeated (Below Field.IsWritten limit) 2 message.fields fields ∧
      Repeated (match limit with | 0 => fun _ _ => False | lower + 1 => Message.IsWritten lower)
        3 message.nested nested ∧
      Single (message.mapEntry = false) (uintRecord 7 message.mapEntry.toNat) mapEntry ∧
      Single (message.mapEntry = false) (delimitedRecord 7 mapEntry) options ∧
      (options ≠ [] → limit ≠ 0)

/-- A method with so many levels below it. -/
inductive Method.IsWritten (limit : Nat) (method : Method) : Octets → Prop
  | intro {name input output options clientStreaming serverStreaming : Octets}
    (hname : Single (method.name = "") (textRecord 1 method.name) name)
    (hinput : Single (method.input = "") (textRecord 2 method.input) input)
    (houtput : Single (method.output = "") (textRecord 3 method.output) output)
    (hoptions : Single (method.options = []) (delimitedRecord 4 method.options) options)
    (hclient : Single (method.clientStreaming = false)
      (uintRecord 5 method.clientStreaming.toNat) clientStreaming)
    (hserver : Single (method.serverStreaming = false)
      (uintRecord 6 method.serverStreaming.toNat) serverStreaming)
    (hholds : options ≠ [] → Holds layout limit method.options (some (.message methodOptions))) :
    IsWritten limit method
      (name ++ input ++ output ++ options ++ clientStreaming ++ serverStreaming)

/-- A service with so many levels below it. -/
inductive Service.IsWritten (limit : Nat) (service : Service) : Octets → Prop
  | intro {name methods : Octets}
    (hname : Single (service.name = "") (textRecord 1 service.name) name)
    (hmethods : Repeated (Below Method.IsWritten limit) 2 service.methods methods) :
    IsWritten limit service (name ++ methods)

/-- A schema file with so many levels below it. -/
inductive File.IsWritten (limit : Nat) (file : File) : Octets → Prop
  | intro {name package messages services : Octets}
    (hname : Single (file.name = "") (textRecord 1 file.name) name)
    (hpackage : Single (file.package = "") (textRecord 2 file.package) package)
    (hmessages : Repeated (Below Message.IsWritten limit) 4 file.messages messages)
    (hservices : Repeated (Below Service.IsWritten limit) 6 file.services services) :
    IsWritten limit file (name ++ package ++ messages ++ services)

/-- A request, with as many levels below it as there can be. -/
inductive Request.IsWritten (request : Request) : Octets → Prop
  | intro {toGenerate parameter files : Octets}
    (htoGenerate :
      Repeated (fun name part => part = Text.utf8 name) 1 request.toGenerate toGenerate)
    (hparameter : Single (request.parameter = "") (textRecord 2 request.parameter) parameter)
    (hfiles : Repeated (Below File.IsWritten maxNesting) 15 request.files files) :
    IsWritten request (toGenerate ++ parameter ++ files)

/-! ## It is read as that value -/

section
variable {limit : Nat} {octets : Octets}

theorem word_of_int32 (n : Int32) : (n.toInt % (1 <<< 64 : Nat)).toNat < 1 <<< 64 := by
  have hpos : (0 : Int) < (1 <<< 64 : Nat) := by decide
  have := Int.emod_lt_of_pos n.toInt hpos
  omega

/-- The low half of the word is the integer. -/
theorem int32_of_word (n : Int32) : Int32.ofInt ((n.toInt % (1 <<< 64 : Nat)).toNat : Int) = n := by
  have hpos : (0 : Int) < (1 <<< 64 : Nat) := by decide
  have hdvd : ((Int32.size : Nat) : Int) ∣ (1 <<< 64 : Nat) := by decide
  rw [Int.toNat_of_nonneg (Int.emod_nonneg _ (Int.ne_of_gt hpos)), ← Int32.toInt_inj,
    Int32.toInt_ofInt, ← Int.emod_bmod, Int.emod_emod_of_dvd _ hdvd, Int.emod_bmod,
    ← Int32.toInt_ofInt, Int32.ofInt_toInt]

theorem int32_of_optional {n : Int32} {words : List Nat} {present : Bool}
    (h : words = if present then [(n.toInt % (1 <<< 64 : Nat)).toNat] else [])
    (hd : present = false → n = 0) : Int32.ofInt (words.getLastD 0 : Nat) = n := by
  subst h
  cases present with
  | true => exact int32_of_word n
  | false => exact (hd rfl).symm

/-- The last number of an enumeration. -/
theorem lastOf_of_optional {α : Type} {ofNumber? : Nat → Option α} {default value : α}
    {numbers : List Nat} {word : Nat} {present : Bool}
    (h : numbers = if present then [word] else []) (hw : ofNumber? (word % (1 <<< 32)) = some value)
    (hd : present = false → value = default) : lastOf ofNumber? default numbers = value := by
  subst h
  cases present with
  | true =>
    have hone : [word].filterMap (fun n => ofNumber? (n % (1 <<< 32))) = [value] :=
      List.filterMap_cons_some (f := fun n => ofNumber? (n % (1 <<< 32))) hw
    rw [if_pos rfl, lastOf, hone]
    rfl
  | false => exact (hd rfl).symm

theorem Field.IsWritten.read {field : Field} (h : field.IsWritten limit octets)
    (hl : octets.length < sizeLimit) :
    conforms layout limit .field octets = true ∧ Field.ofOctets? octets = some field := by
  obtain ⟨hname, hnumber, hlabel, htype, htypeName, hoptions, hholds⟩ := h
  simp only [List.length_append] at hl
  obtain ⟨b₁, w₁, -, d₁⟩ := hname.exists_writes_delimited (by decide) (by omega)
  obtain ⟨b₃, w₃, d₃⟩ := hnumber.exists_writes_uint (by decide) (word_of_int32 _)
  obtain ⟨b₄, w₄, d₄⟩ := hlabel.exists_writes_uint (by decide) (by cases field.label <;> decide)
  obtain ⟨b₅, w₅, d₅⟩ := htype.exists_writes_uint (by decide) (by cases field.type <;> decide)
  obtain ⟨b₆, w₆, -, d₆⟩ := htypeName.exists_writes_delimited (by decide) (by omega)
  obtain ⟨b₈, w₈, p₈, d₈⟩ := hoptions.exists_writes_delimited (by decide) (by omega)
  have hw := ((((w₁.append w₃).append w₄).append w₅).append w₆).append w₈
  refine ⟨(conforms_iff (hw.records? limit)).2 ?_, ?_⟩
  · simp only [allHold_append, allHold_optional_varint, allHold_optional_delimited, and_true]
    exact ⟨⟨fun _ => trivial, fun _ => trivial⟩, fun h => hholds (p₈ h)⟩
  · generalize hr : (_ ++ _ : List Record) = records at hw
    have h₁ : text? 1 records = some field.name := text?_of_optional (by simp [← hr]) d₁
    have h₃ : Int32.ofInt ((uints 3 records).getLastD 0 : Nat) = field.number :=
      int32_of_optional (by simp [← hr]) d₃
    have u₄ : uints 4 records = if b₄ then [field.label.number] else [] := by simp [← hr]
    have h₄ : lastOf Label.ofNumber? .optional (uints 4 records) = field.label :=
      lastOf_of_optional u₄ (by cases field.label <;> rfl) d₄
    have u₅ : uints 5 records = if b₅ then [field.type.number] else [] := by simp [← hr]
    have h₅ : lastOf FieldType.ofNumber? .double (uints 5 records) = field.type :=
      lastOf_of_optional u₅ (by cases field.type <;> rfl) d₅
    have h₆ : text? 6 records = some field.typeName := text?_of_optional (by simp [← hr]) d₆
    have h₈ : merged 8 records = field.options := merged_of_optional (by simp [← hr]) d₈
    rw [Field.ofOctets?, hw.records?]
    simp only [h₁, h₃, h₄, h₅, h₆, h₈, Option.bind_eq_bind, Option.bind_some, Option.pure_def]

theorem Method.IsWritten.read {method : Method} (h : method.IsWritten limit octets)
    (hl : octets.length < sizeLimit) :
    conforms layout limit .method octets = true ∧ Method.ofOctets? octets = some method := by
  obtain ⟨hname, hinput, houtput, hoptions, hclient, hserver, hholds⟩ := h
  simp only [List.length_append] at hl
  obtain ⟨b₁, w₁, -, d₁⟩ := hname.exists_writes_delimited (by decide) (by omega)
  obtain ⟨b₂, w₂, -, d₂⟩ := hinput.exists_writes_delimited (by decide) (by omega)
  obtain ⟨b₃, w₃, -, d₃⟩ := houtput.exists_writes_delimited (by decide) (by omega)
  obtain ⟨b₄, w₄, p₄, d₄⟩ := hoptions.exists_writes_delimited (by decide) (by omega)
  obtain ⟨b₅, w₅, d₅⟩ := hclient.exists_writes_uint (by decide)
    (by cases method.clientStreaming <;> decide)
  obtain ⟨b₆, w₆, d₆⟩ := hserver.exists_writes_uint (by decide)
    (by cases method.serverStreaming <;> decide)
  have hw := ((((w₁.append w₂).append w₃).append w₄).append w₅).append w₆
  refine ⟨(conforms_iff (hw.records? limit)).2 ?_, ?_⟩
  · simp only [allHold_append, allHold_optional_varint, allHold_optional_delimited, and_true]
    exact ⟨⟨⟨fun _ => trivial, fun _ => trivial⟩, fun _ => trivial⟩, fun h => hholds (p₄ h)⟩
  · generalize hr : (_ ++ _ : List Record) = records at hw
    have h₁ : text? 1 records = some method.name := text?_of_optional (by simp [← hr]) d₁
    have h₂ : text? 2 records = some method.input := text?_of_optional (by simp [← hr]) d₂
    have h₃ : text? 3 records = some method.output := text?_of_optional (by simp [← hr]) d₃
    have h₄ : merged 4 records = method.options := merged_of_optional (by simp [← hr]) d₄
    have h₅ : flag 5 records = method.clientStreaming := flag_of_optional (by simp [← hr]) d₅
    have h₆ : flag 6 records = method.serverStreaming := flag_of_optional (by simp [← hr]) d₆
    rw [Method.ofOctets?, hw.records?]
    simp only [h₁, h₂, h₃, h₄, h₅, h₆, Option.bind_eq_bind, Option.bind_some, Option.pure_def]

/-- What is written further down is read with one level less. -/
theorem Below.read {α : Type} {IsWritten : Nat → α → Octets → Prop} {kind : MessageKind}
    {read : Octets → Option α}
    (hread : ∀ {lower item part}, limit = lower + 1 → IsWritten lower item part →
      part.length < sizeLimit → conforms layout lower kind part = true ∧ read part = some item)
    (item : α) (part : Octets) (h : Below IsWritten limit item part)
    (hl : part.length < sizeLimit) :
    Holds layout limit part (some (.message kind)) ∧ read part = some item := by
  cases limit with
  | zero => exact h.elim
  | succ lower =>
    obtain ⟨hconforms, hitem⟩ := hread rfl h hl
    exact ⟨⟨lower, rfl, hconforms⟩, hitem⟩

theorem Service.IsWritten.read {service : Service} (h : service.IsWritten limit octets)
    (hl : octets.length < sizeLimit) :
    conforms layout limit .service octets = true ∧ Service.ofOctets? octets = some service := by
  obtain ⟨hname, hmethods⟩ := h
  simp only [List.length_append] at hl
  obtain ⟨b₁, w₁, -, d₁⟩ := hname.exists_writes_delimited (by decide) (by omega)
  obtain ⟨methods, w₂, r₂, f₂⟩ := hmethods.exists_read (by decide) (by omega)
    (Below.read fun _ => Method.IsWritten.read)
  have hw := w₁.append w₂
  refine ⟨(conforms_iff (hw.records? limit)).2 ?_, ?_⟩
  · simp only [allHold_append, allHold_map, allHold_optional_delimited]
    exact ⟨fun _ => trivial, f₂⟩
  · generalize hr : (_ ++ _ : List Record) = records at hw
    have h₁ : text? 1 records = some service.name := text?_of_optional (by simp [← hr]) d₁
    have h₂ : payloads 2 records = methods := by simp [← hr]
    rw [Service.ofOctets?, hw.records?]
    simp only [h₁, h₂, r₂, Option.bind_eq_bind, Option.bind_some, Option.pure_def]

/-- A message is read if the message types inside it are. -/
theorem Message.read_of_nested {message : Message}
    (hnested : ∀ inner part, Below Message.IsWritten limit inner part → part.length < sizeLimit →
      Holds layout limit part (some (.message .messageType)) ∧
        Message.ofOctets? part = some inner)
    (h : message.IsWritten limit octets) (hl : octets.length < sizeLimit) :
    conforms layout limit .messageType octets = true ∧ Message.ofOctets? octets = some message := by
  rw [Message.IsWritten.eq_def] at h
  obtain ⟨name, fields, nested, mapEntry, options, rfl, h₁, h₂, h₃, hflag, hoptions, hlimit⟩ := h
  simp only [List.length_append] at hl
  obtain ⟨b₁, w₁, -, d₁⟩ := h₁.exists_writes_delimited (by decide) (by omega)
  obtain ⟨fields, w₂, r₂, f₂⟩ := h₂.exists_read (by decide) (by omega)
    (Below.read fun _ => Field.IsWritten.read)
  obtain ⟨nested, w₃, r₃, f₃⟩ := h₃.exists_read (by decide) (by omega) fun inner part hm =>
    hnested inner part (by cases limit <;> exact hm)
  obtain ⟨b₇, w₇, p₇, d₇⟩ := hoptions.exists_writes_delimited (by decide) (by omega)
  obtain ⟨set, wflag, dflag⟩ := hflag.exists_writes_uint (by decide)
    (by cases message.mapEntry <;> decide)
  have hw := ((w₁.append w₂).append w₃).append w₇
  refine ⟨(conforms_iff (hw.records? limit)).2 ?_, ?_⟩
  · simp only [allHold_append, allHold_map, allHold_optional_delimited]
    refine ⟨⟨⟨fun _ => trivial, f₂⟩, f₃⟩, fun h => ?_⟩
    obtain ⟨lower, rfl⟩ := Nat.exists_eq_succ_of_ne_zero (hlimit (p₇ h))
    exact ⟨lower, rfl, (conforms_iff (wflag.records? lower)).2 (allHold_optional_varint _ _ _)⟩
  · generalize hr : (_ ++ _ : List Record) = records at hw
    have h₁ : text? 1 records = some message.name := text?_of_optional (by simp [← hr]) d₁
    have h₂ : payloads 2 records = fields := by simp [← hr]
    have h₃ : payloads 3 records = nested := by simp [← hr]
    have h₇ : payloads 7 records = if b₇ then [mapEntry] else [] := by simp [← hr]
    obtain ⟨inside, hinside, hset⟩ : ∃ inside,
        records? maxNesting (merged 7 records) = some inside ∧
          flag 7 inside = message.mapEntry := by
      rw [merged, h₇]
      cases b₇ with
      | true =>
        refine ⟨optionalRecord set ⟨7, .varint message.mapEntry.toNat⟩, ?_,
          flag_of_optional (by simp) dflag⟩
        rw [if_pos rfl, List.flatten_singleton, wflag.records?]
      | false => exact ⟨[], Writes.nil.records? maxNesting, (d₇ rfl).symm⟩
    rw [Message.ofOctets?_eq, hw.records?]
    simp only [h₁, h₂, h₃, r₂, r₃, hinside, hset, Option.bind_eq_bind, Option.bind_some,
      Option.pure_def]
    cases message
    rfl

/-- The induction is on the levels: message types inside a message lie one level further down. -/
theorem Message.IsWritten.read {message : Message} (h : message.IsWritten limit octets)
    (hl : octets.length < sizeLimit) :
    conforms layout limit .messageType octets = true ∧ Message.ofOctets? octets = some message := by
  induction limit generalizing message octets with
  | zero => exact Message.read_of_nested (fun _ _ h => h.elim) h hl
  | succ lower ih =>
    refine Message.read_of_nested (Below.read fun he => ?_) h hl
    obtain rfl := Nat.succ.inj he
    exact ih

theorem File.IsWritten.read {file : File} (h : file.IsWritten limit octets)
    (hl : octets.length < sizeLimit) :
    conforms layout limit .file octets = true ∧ File.ofOctets? octets = some file := by
  obtain ⟨hname, hpackage, hmessages, hservices⟩ := h
  simp only [List.length_append] at hl
  obtain ⟨b₁, w₁, -, d₁⟩ := hname.exists_writes_delimited (by decide) (by omega)
  obtain ⟨b₂, w₂, -, d₂⟩ := hpackage.exists_writes_delimited (by decide) (by omega)
  obtain ⟨messages, w₄, r₄, f₄⟩ := hmessages.exists_read (by decide) (by omega)
    (Below.read fun _ => Message.IsWritten.read)
  obtain ⟨services, w₆, r₆, f₆⟩ := hservices.exists_read (by decide) (by omega)
    (Below.read fun _ => Service.IsWritten.read)
  have hw := ((w₁.append w₂).append w₄).append w₆
  refine ⟨(conforms_iff (hw.records? limit)).2 ?_, ?_⟩
  · simp only [allHold_append, allHold_map, allHold_optional_delimited]
    exact ⟨⟨⟨fun _ => trivial, fun _ => trivial⟩, f₄⟩, f₆⟩
  · generalize hr : (_ ++ _ : List Record) = records at hw
    have h₁ : text? 1 records = some file.name := text?_of_optional (by simp [← hr]) d₁
    have h₂ : text? 2 records = some file.package := text?_of_optional (by simp [← hr]) d₂
    have h₄ : payloads 4 records = messages := by simp [← hr]
    have h₆ : payloads 6 records = services := by simp [← hr]
    rw [File.ofOctets?, hw.records?]
    simp only [h₁, h₂, h₄, h₆, r₄, r₆, Option.bind_eq_bind, Option.bind_some, Option.pure_def]

theorem Request.IsWritten.read {request : Request} (h : request.IsWritten octets)
    (hl : octets.length < sizeLimit) : Request.ofOctets? octets = some request := by
  obtain ⟨htoGenerate, hparameter, hfiles⟩ := h
  simp only [List.length_append] at hl
  have hname : ∀ name part, part = Text.utf8 name → part.length < sizeLimit →
      True ∧ Text.ofUtf8? part = some name :=
    fun name part hp _ => ⟨trivial, hp ▸ Text.ofUtf8?_utf8 name⟩
  obtain ⟨names, w₁, r₁, -⟩ := htoGenerate.exists_read (by decide) (by omega) hname
  obtain ⟨b₂, w₂, -, d₂⟩ := hparameter.exists_writes_delimited (by decide) (by omega)
  obtain ⟨files, w₁₅, r₁₅, f₁₅⟩ := hfiles.exists_read (by decide) (by omega)
    (Below.read fun _ => File.IsWritten.read)
  have hw := (w₁.append w₂).append w₁₅
  have haccepts : accepts .request (_ ++ _ ++ _) = true := (conforms_iff (hw.records? _)).2 (by
    simp only [allHold_append, allHold_map, allHold_optional_delimited]
    exact ⟨⟨fun _ _ => trivial, fun _ => trivial⟩, f₁₅⟩)
  generalize hr : (_ ++ _ : List Record) = records at hw
  have h₁ : texts? 1 records = some request.toGenerate := by
    rw [texts?, ← hr]
    simpa using r₁
  have h₂ : text? 2 records = some request.parameter := text?_of_optional (by simp [← hr]) d₂
  have h₁₅ : payloads 15 records = files := by simp [← hr]
  rw [Request.ofOctets?, guard, if_pos haccepts, hw.records?]
  simp only [Request.ofRecords?, h₁, h₂, h₁₅, r₁₅, Option.bind_eq_bind, Option.bind_some,
    Option.pure_def]

end

/-! ## What is written stands for the value -/

/-- One level further down, if there is a level. -/
def fitsBelow {α : Type} (fits : Nat → α → Bool) : Nat → α → Bool
  | 0, _ => false
  | lower + 1, item => fits lower item

/-- Whether a field and its options lie no deeper than so many levels below the field. -/
def Field.fits (limit : Nat) (field : Field) : Bool :=
  fitsBelow (conforms layout · fieldOptions ·) limit field.options

def Message.fits : Nat → Message → Bool
  | 0, _ => false
  | lower + 1, message => message.fields.all (Field.fits lower) && message.nested.all (fits lower)

def Method.fits (limit : Nat) (method : Method) : Bool :=
  fitsBelow (conforms layout · methodOptions ·) limit method.options

def Service.fits (limit : Nat) (service : Service) : Bool :=
  service.methods.all (fitsBelow Method.fits limit)

def File.fits (limit : Nat) (file : File) : Bool :=
  file.messages.all (fitsBelow Message.fits limit) &&
    file.services.all (fitsBelow Service.fits limit)

/-- Whether nothing in a request lies too deep, and all options are well formed. -/
def Request.fits (request : Request) : Bool :=
  request.files.all (fitsBelow File.fits maxNesting)

section
variable {limit : Nat}

theorem below_of_fitsBelow {α : Type} {IsWritten : Nat → α → Octets → Prop}
    {fits : Nat → α → Bool} {item : α} {octets : Octets}
    (hfits : ∀ {lower}, fits lower item = true → IsWritten lower item octets)
    (h : fitsBelow fits limit item = true) : Below IsWritten limit item octets := by
  cases limit with
  | zero => cases h
  | succ lower => exact hfits h

theorem holds_of_fitsBelow {kind : MessageKind} {options : Octets}
    (h : fitsBelow (conforms layout · kind ·) limit options = true) :
    Holds layout limit options (some (.message kind)) := by
  cases limit with
  | zero => cases h
  | succ lower => exact ⟨lower, rfl, h⟩

theorem single_flagRecord (number : Nat) (value : Bool) :
    Single (value = false) (uintRecord number value.toNat) (flagRecord number value) := by
  cases value with
  | true => exact .present
  | false => exact .absent rfl

theorem Field.isWritten_toOctets {field : Field} (h : field.fits limit = true) :
    field.IsWritten limit field.toOctets :=
  .intro .present .present .present .present .present .present fun _ => holds_of_fitsBelow h

theorem nestedOctets_eq (nested : List Message) :
    Message.nestedOctets nested = nested.flatMap fun inner => delimitedRecord 3 inner.toOctets := by
  induction nested with
  | nil => rw [Message.nestedOctets, List.flatMap_nil]
  | cons inner rest ih => rw [Message.nestedOctets, List.flatMap_cons, ih]

/-- The induction is on the levels, as in the reading of messages. -/
theorem Message.isWritten_toOctets {message : Message} (h : message.fits limit = true) :
    message.IsWritten limit message.toOctets := by
  induction limit generalizing message with
  | zero => cases h
  | succ lower ih =>
    obtain ⟨name, fields, nested, mapEntry⟩ := message
    obtain ⟨hfields, hnested⟩ := Bool.and_eq_true_iff.1 h
    rw [List.all_eq_true] at hfields hnested
    rw [Message.toOctets, nestedOctets_eq]
    exact ⟨_, _, _, _, _, rfl, .present,
      repeated_flatMap fun field hm => Field.isWritten_toOctets (hfields field hm),
      repeated_flatMap fun inner hm => ih (hnested inner hm),
      single_flagRecord 7 mapEntry, .present, fun _ => Nat.succ_ne_zero lower⟩

theorem Method.isWritten_toOctets {method : Method} (h : method.fits limit = true) :
    method.IsWritten limit method.toOctets :=
  .intro .present .present .present .present (single_flagRecord 5 _) (single_flagRecord 6 _)
    fun _ => holds_of_fitsBelow h

theorem Service.isWritten_toOctets {service : Service} (h : service.fits limit = true) :
    service.IsWritten limit service.toOctets := by
  rw [Service.fits, List.all_eq_true] at h
  exact .intro .present (repeated_flatMap fun method hm =>
    below_of_fitsBelow Method.isWritten_toOctets (h method hm))

theorem File.isWritten_toOctets {file : File} (h : file.fits limit = true) :
    file.IsWritten limit file.toOctets := by
  obtain ⟨hmessages, hservices⟩ := Bool.and_eq_true_iff.1 h
  rw [List.all_eq_true] at hmessages hservices
  exact .intro .present .present
    (repeated_flatMap fun message hm =>
      below_of_fitsBelow Message.isWritten_toOctets (hmessages message hm))
    (repeated_flatMap fun service hm =>
      below_of_fitsBelow Service.isWritten_toOctets (hservices service hm))

theorem Request.isWritten_toOctets {request : Request} (h : request.fits = true) :
    request.IsWritten request.toOctets := by
  rw [Request.fits, List.all_eq_true] at h
  exact .intro (repeated_flatMap fun _ _ => rfl) .present (repeated_flatMap fun file hm =>
    below_of_fitsBelow File.isWritten_toOctets (h file hm))

end

/-! ## Answers -/

theorem GeneratedFile.ofOctets?_toOctets (file : GeneratedFile)
    (hl : file.toOctets.length < sizeLimit) :
    GeneratedFile.ofOctets? file.toOctets = some file := by
  rw [GeneratedFile.toOctets, List.length_append] at hl
  have hname : Single (file.name = "") (textRecord 1 file.name) (textRecord 1 file.name) := .present
  have hcontent : Single (file.content = "") (textRecord 15 file.content)
    (textRecord 15 file.content) := .present
  obtain ⟨b₁, w₁, -, d₁⟩ := hname.exists_writes_delimited (by decide) (by omega)
  obtain ⟨b₁₅, w₁₅, -, d₁₅⟩ := hcontent.exists_writes_delimited (by decide) (by omega)
  have hw := w₁.append w₁₅
  generalize hr : (_ ++ _ : List Record) = records at hw
  have h₁ : text? 1 records = some file.name := text?_of_optional (by simp [← hr]) d₁
  have h₁₅ : text? 15 records = some file.content := text?_of_optional (by simp [← hr]) d₁₅
  rw [GeneratedFile.ofOctets?, GeneratedFile.toOctets, hw.records?]
  simp only [h₁, h₁₅, Option.bind_eq_bind, Option.bind_some, Option.pure_def]

/-- There is a record of the error exactly if there is an error. -/
theorem writes_error (error : Option String)
    (hl : (error.elim [] (textRecord 1)).length < sizeLimit) :
    Writes (error.elim [] (textRecord 1))
      (error.toList.map fun text => ⟨1, .delimited (Text.utf8 text)⟩) := by
  cases error with
  | none => exact .nil
  | some text => exact writes_delimitedRecord (by decide) hl

/-- An answer is read as it was written, if its features are a word and it is not too long. -/
theorem Response.ofOctets?_toOctets (response : Response)
    (hf : response.supportedFeatures < 1 <<< 64) (hl : response.toOctets.length < sizeLimit) :
    Response.ofOctets? response.toOctets = some response := by
  simp only [Response.toOctets, List.length_append] at hl
  have hfile : ∀ (file : GeneratedFile) part, part = file.toOctets → part.length < sizeLimit →
      True ∧ GeneratedFile.ofOctets? part = some file :=
    fun file part hp hl => ⟨trivial, hp ▸ file.ofOctets?_toOctets (hp ▸ hl)⟩
  have hfiles : Repeated (fun (file : GeneratedFile) part => part = file.toOctets) 15 response.files
      (response.files.flatMap fun file => delimitedRecord 15 file.toOctets) :=
    repeated_flatMap fun _ _ => rfl
  obtain ⟨files, w₁₅, r₁₅, -⟩ := hfiles.exists_read (by decide) (by omega) hfile
  have hw := ((writes_error response.error (by omega)).append
    (writes_uintRecord (by decide : IsNumber 2) hf)).append w₁₅
  generalize hr : (_ ++ _ : List Record) = records at hw
  have h₁ : texts? 1 records = some response.error.toList := by
    rw [texts?_eq_some, ← hr]
    simp
  have h₂ : (uints 2 records).getLastD 0 = response.supportedFeatures := by simp [← hr]
  have h₁₅ : payloads 15 records = files := by simp [← hr]
  have herror : response.error.toList.getLast? = response.error := by
    cases response.error <;> rfl
  rw [Response.ofOctets?, Response.toOctets, hw.records?]
  simp only [h₁, h₂, h₁₅, r₁₅, herror, Option.bind_eq_bind, Option.bind_some, Option.pure_def]

end ToolBindings
