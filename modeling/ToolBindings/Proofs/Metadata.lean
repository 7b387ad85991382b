import ToolBindings.Metadata
import ToolBindings.Proofs.Journal.Success
import ToolBindings.Proofs.Wire.Selection

/-!
# What options say

Metadata is a message in the delimited records of one number among the options. The
records of one number are parts of one message, and in that message the last record of a
field counts. All other records, in the options and in the message, are passed over.

* `Carries`, `Present`: the records of options and of the message in them.
* `ToolMetadata.IsReadFrom`, `FieldMetadata.IsReadFrom`: what the message says.
* `readOptions_eq_ok`, `readOptions_congr`: the reading of options, whatever the message is.
* `PassesOver`, `passesOver_readOptions`: records that do not count can stand anywhere.
* `ofOptions_last_record`: what tool and field metadata are read as, and what they do not
  depend on.
-/
namespace ToolBindings
open Wire

/-- Options are complete records, and so is each delimited record of a number among them; put
together in their order, those are a message with the records `inner`. -/
structure Carries (number : Nat) (options : Octets) (records inner : List Record) : Prop where
  outer : records? maxNesting options = some records
  parts : ∀ part, ⟨number, .delimited part⟩ ∈ records → isMessage (maxNesting - 1) part = true
  inner : records? (maxNesting - 1) (merged number records) = some inner

/-- A delimited record of a number is among the records. -/
def Present (number : Nat) (records : List Record) : Prop :=
  ∃ part, ⟨number, .delimited part⟩ ∈ records

/-- Of the records among options only the delimited ones of a number matter, and of the records of
the message in them only those that count. Other records can be put in, taken out and moved. -/
structure PassesOver {α : Type} (number : Nat) (counts : Record → Bool)
    (read : Octets → Except Failure α) : Prop where
  rearranged : ∀ options others records otherRecords inner otherInner,
    Carries number options records inner → Carries number others otherRecords otherInner →
    (Present number records ↔ Present number otherRecords) →
    inner.filter counts = otherInner.filter counts → read options = read others
  inserted : ∀ before extra after front more,
    records? maxNesting before = some front → records? maxNesting extra = some more →
    ¬Present number more → read (before ++ extra ++ after) = read (before ++ after)

/-! ## Messages among options -/

/-- The value of the message in the options' records of one number; none without such a record. -/
def readOptions {α : Type} (number : Nat) (value? : List Record → Option α) (options : Octets) :
    Except Failure (Option α) := do
  match ← embeddedMessage number options with
  | none => return none
  | some records =>
    match value? records with
    | none => throw .malformed
    | some value => return some value

section
variable {α : Type} {number : Nat} {value? : List Record → Option α} {options others : Octets}
  {records otherRecords inner otherInner : List Record} {result : Option α}

theorem present_iff : Present number records ↔ payloads number records ≠ [] := by
  simp [Present, Ne, payloads_eq_nil]

theorem carries_of_payloads (houter : records? maxNesting options = some records)
    (hparts : ∀ part ∈ payloads number records, isMessage (maxNesting - 1) part = true)
    (hinner : records? (maxNesting - 1) (merged number records) = some inner) :
    Carries number options records inner :=
  ⟨houter, fun part hm => hparts part (mem_payloads.2 hm), hinner⟩

theorem embeddedMessage_of_carries (h : Carries number options records inner) :
    embeddedMessage number options =
      .ok (if payloads number records = [] then none else some inner) := by
  obtain ⟨parts, hp⟩ : ∃ parts,
      (payloads number records).mapM (records? (maxNesting - 1)) = some parts :=
    exists_mapM_eq_some.2 fun part hm => h.parts part (mem_payloads.1 hm)
  have hinner := h.inner
  rw [merged, records?_flatten hp, Option.some.injEq] at hinner
  unfold embeddedMessage
  simp only [h.outer, ← hinner]
  split
  · next he => rw [if_pos he]
  · next hne => simp only [hp, if_neg hne]

/-- Only options whose records and parts are complete have a message. -/
theorem carries_of_embeddedMessage {message? : Option (List Record)}
    (h : embeddedMessage number options = .ok message?) :
    ∃ records inner, Carries number options records inner := by
  unfold embeddedMessage at h
  split at h
  · cases h
  next records ho =>
  obtain ⟨parts, hp⟩ : ∃ parts,
      (payloads number records).mapM (records? (maxNesting - 1)) = some parts := by
    split at h
    · next he => rw [he]; exact ⟨[], rfl⟩
    · split at h
      · cases h
      · next parts hp => exact ⟨parts, hp⟩
  exact ⟨records, parts.flatten,
    carries_of_payloads ho (exists_mapM_eq_some.1 ⟨parts, hp⟩) (records?_flatten hp)⟩

theorem readOptions_of_carries (h : Carries number options records inner) :
    readOptions number value? options =
      if payloads number records = [] then .ok none
      else match value? inner with
        | none => .error .malformed
        | some value => .ok (some value) := by
  unfold readOptions
  rw [embeddedMessage_of_carries h, ok_bind]
  by_cases he : payloads number records = []
  · simp only [if_pos he]; rfl
  · simp only [if_neg he]; rfl

/-- Options are read exactly if they are complete and their message, if there is one, has a
value. -/
theorem readOptions_eq_ok :
    readOptions number value? options = .ok result ↔
      ∃ records inner, Carries number options records inner ∧
        ((¬Present number records ∧ result = none) ∨
          (Present number records ∧ ∃ value, value? inner = some value ∧ result = some value)) := by
  constructor
  · intro h
    obtain ⟨message?, hm, -⟩ := bind_eq_ok.1 h
    obtain ⟨records, inner, hc⟩ := carries_of_embeddedMessage hm
    rw [readOptions_of_carries hc] at h
    refine ⟨records, inner, hc, ?_⟩
    rw [present_iff]
    split at h
    · next he => cases h; exact .inl ⟨not_not.2 he, rfl⟩
    · next hne =>
      split at h
      · cases h
      · next value hv => cases h; exact .inr ⟨hne, value, hv, rfl⟩
  · rintro ⟨records, inner, hc, ⟨hp, rfl⟩ | ⟨hp, value, hv, rfl⟩⟩ <;>
      rw [readOptions_of_carries hc] <;> rw [present_iff] at hp
    · rw [if_pos (not_not.1 hp)]
    · rw [if_neg hp, hv]

theorem readOptions_congr (h : Carries number options records inner)
    (h' : Carries number others otherRecords otherInner)
    (hp : Present number records ↔ Present number otherRecords)
    (hv : value? inner = value? otherInner) :
    readOptions number value? options = readOptions number value? others := by
  rw [present_iff, present_iff, not_iff_not] at hp
  rw [readOptions_of_carries h, readOptions_of_carries h', hv]
  simp only [hp]

/-- Complete records without the number can stand between the records of the options. -/
theorem embeddedMessage_inserted {before extra : Octets} {front more : List Record}
    (after : Octets) (hb : records? maxNesting before = some front)
    (he : records? maxNesting extra = some more) (hn : ¬Present number more) :
    embeddedMessage number (before ++ extra ++ after) =
      embeddedMessage number (before ++ after) := by
  rw [present_iff, not_not] at hn
  unfold embeddedMessage
  rw [List.append_assoc, records?_append _ hb, records?_append _ he, records?_append _ hb]
  cases records? maxNesting after with
  | none => rfl
  | some rest =>
    have hpayloads : payloads number (front ++ (more ++ rest)) =
        payloads number (front ++ rest) := by
      rw [payloads_eq] at hn
      simp only [payloads_eq, List.filterMap_append, hn, List.nil_append]
    simp only [Option.map_some, hpayloads]

theorem passesOver_readOptions {counts : Record → Bool}
    (h : ∀ inner otherInner : List Record,
      inner.filter counts = otherInner.filter counts → value? inner = value? otherInner) :
    PassesOver number counts (readOptions number value?) where
  rearranged := fun _ _ _ _ _ _ hc hc' hp hv => readOptions_congr hc hc' hp (h _ _ hv)
  inserted := fun _ _ after _ _ hb he hn => by
    unfold readOptions
    rw [embeddedMessage_inserted after hb he hn]

end

/-! ## Tool metadata -/

namespace ToolMetadata

/-- The metadata that the records of a message say. -/
structure IsReadFrom (records : List Record) (metadata : ToolMetadata) : Prop where
  name : LastText 1 records metadata.name
  description : LastText 2 records metadata.description

/-- The records of a message that tool metadata is read from. -/
def counts (r : Record) : Bool :=
  match r.payload with
  | .delimited _ => r.number == 1 || r.number == 2
  | _ => false

theorem ofOptions_eq (options : Octets) :
    ofOptions options = readOptions optionNumber ofRecords? options := by
  unfold ofOptions readOptions
  congr 1
  funext message?
  cases message? with
  | none => rfl
  | some records => simp only; cases ofRecords? records <;> rfl

theorem ofRecords?_eq_some {records : List Record} {metadata : ToolMetadata} :
    ofRecords? records = some metadata ↔ metadata.IsReadFrom records := by
  simp only [ofRecords?, Option.bind_eq_bind, Option.bind_eq_some_iff, text?_eq_some,
    Option.pure_def, Option.some.injEq]
  constructor
  · rintro ⟨name, hname, description, hdescription, rfl⟩
    exact ⟨hname, hdescription⟩
  · intro h
    exact ⟨_, h.name, _, h.description, rfl⟩

theorem ofRecords?_congr {records others : List Record}
    (h : records.filter counts = others.filter counts) :
    ofRecords? records = ofRecords? others := by
  have hpayloads : ∀ number ∈ [1, 2], payloads number records = payloads number others := by
    intro number hm
    have hcounts : ∀ octets, counts ⟨number, .delimited octets⟩ = true := by
      simpa [counts] using hm
    rw [← payloads_filter hcounts, h, payloads_filter hcounts]
  unfold ofRecords? text? texts?
  rw [hpayloads 1 (by simp), hpayloads 2 (by simp)]

end ToolMetadata

/-! ## Field metadata -/

namespace FieldMetadata

/-- The metadata that the records of a message say. -/
structure IsReadFrom (records : List Record) (metadata : FieldMetadata) : Prop where
  description : LastText 1 records metadata.description
  required : LastFlag 2 records metadata.required
  sample : LastText 3 records metadata.sample

/-- The records of a message that field metadata is read from. -/
def counts (r : Record) : Bool :=
  match r.payload with
  | .delimited _ => r.number == 1 || r.number == 3
  | .varint _ => r.number == 2
  | _ => false

theorem ofOptions_eq (options : Octets) :
    ofOptions options = readOptions optionNumber ofRecords? options := by
  unfold ofOptions readOptions
  congr 1
  funext message?
  cases message? with
  | none => rfl
  | some records => simp only; cases ofRecords? records <;> rfl

theorem ofRecords?_eq_some {records : List Record} {metadata : FieldMetadata} :
    ofRecords? records = some metadata ↔ metadata.IsReadFrom records := by
  simp only [ofRecords?, Option.bind_eq_bind, Option.bind_eq_some_iff, text?_eq_some,
    Option.pure_def, Option.some.injEq]
  constructor
  · rintro ⟨description, hdescription, sample, hsample, rfl⟩
    exact ⟨hdescription, flag_iff_lastFlag.1 rfl, hsample⟩
  · intro h
    refine ⟨_, h.description, _, h.sample, ?_⟩
    rw [flag_iff_lastFlag.2 h.required]

theorem ofRecords?_congr {records others : List Record}
    (h : records.filter counts = others.filter counts) :
    ofRecords? records = ofRecords? others := by
  have hpayloads : ∀ number ∈ [1, 3], payloads number records = payloads number others := by
    intro number hm
    have hcounts : ∀ octets, counts ⟨number, .delimited octets⟩ = true := by
      simpa [counts] using hm
    rw [← payloads_filter hcounts, h, payloads_filter hcounts]
  have huints : uints 2 records = uints 2 others := by
    have hcounts : ∀ value, counts ⟨2, .varint value⟩ = true := fun _ => rfl
    rw [← uints_filter hcounts, h, uints_filter hcounts]
  unfold ofRecords? text? texts? flag
  rw [hpayloads 1 (by simp), hpayloads 3 (by simp), huints]

end FieldMetadata

/-! ## Both -/

/-- Options are read as metadata exactly if they and the parts of the message in them are complete
records. Without a delimited record of the number there is no metadata; otherwise the last record
of each field decides in the parts put together, and a record of another number or form does not
matter wherever it stands. What methods and fields say is read in this way, if their options are
complete. -/
theorem ofOptions_last_record :
    (∀ options result, ToolMetadata.ofOptions options = .ok result ↔
      ∃ records inner, Carries ToolMetadata.optionNumber options records inner ∧
        ((¬Present ToolMetadata.optionNumber records ∧ result = none) ∨
          (Present ToolMetadata.optionNumber records ∧
            ∃ metadata : ToolMetadata, metadata.IsReadFrom inner ∧ result = some metadata))) ∧
    (∀ options result, FieldMetadata.ofOptions options = .ok result ↔
      ∃ records inner, Carries FieldMetadata.optionNumber options records inner ∧
        ((¬Present FieldMetadata.optionNumber records ∧ result = none) ∨
          (Present FieldMetadata.optionNumber records ∧
            ∃ metadata : FieldMetadata, metadata.IsReadFrom inner ∧ result = some metadata))) ∧
    PassesOver ToolMetadata.optionNumber ToolMetadata.counts ToolMetadata.ofOptions ∧
    PassesOver FieldMetadata.optionNumber FieldMetadata.counts FieldMetadata.ofOptions ∧
    (∀ (method : Method) result, method.metadata = .ok result ↔
      isComplete method.options = true ∧ ToolMetadata.ofOptions method.options = .ok result) ∧
    (∀ (field : Field) result, field.metadata = .ok result ↔
      isComplete field.options = true ∧ FieldMetadata.ofOptions field.options = .ok result) := by
  have hcomplete : ∀ options complete, completeOptions options = .ok complete ↔
      isComplete options = true ∧ options = complete := by
    intro options complete
    unfold completeOptions
    cases isComplete options <;> simp
  refine ⟨fun options result => ?_, fun options result => ?_, ?_, ?_, fun method result => ?_,
    fun field result => ?_⟩
  · rw [ToolMetadata.ofOptions_eq, readOptions_eq_ok]
    simp only [ToolMetadata.ofRecords?_eq_some]
  · rw [FieldMetadata.ofOptions_eq, readOptions_eq_ok]
    simp only [FieldMetadata.ofRecords?_eq_some]
  · rw [funext ToolMetadata.ofOptions_eq]
    exact passesOver_readOptions fun _ _ => ToolMetadata.ofRecords?_congr
  · rw [funext FieldMetadata.ofOptions_eq]
    exact passesOver_readOptions fun _ _ => FieldMetadata.ofRecords?_congr
  · simp only [Method.metadata, bind_eq_ok, hcomplete, and_assoc, exists_and_left, exists_eq_left']
  · simp only [Field.metadata, bind_eq_ok, hcomplete, and_assoc, exists_and_left, exists_eq_left']

/-- Options with tool metadata in two records. Other records stand between them and in them, and a
name is given that does not count in the end. -/
def scatteredOptions : Octets :=
  uintRecord ToolMetadata.optionNumber 7 ++
    delimitedRecord ToolMetadata.optionNumber (textRecord 1 "draft" ++ textRecord 9 "x") ++
    uintRecord 33 1 ++
    delimitedRecord ToolMetadata.optionNumber
      (uintRecord 2 5 ++ textRecord 2 "Finds." ++ textRecord 1 "find")

/-- Options with the same records that count, in one record. -/
def gatheredOptions : Octets :=
  delimitedRecord ToolMetadata.optionNumber
    (textRecord 1 "draft" ++ textRecord 2 "Finds." ++ textRecord 1 "find")

theorem ofOptions_last_record_scattered :
    ToolMetadata.ofOptions scatteredOptions = ToolMetadata.ofOptions gatheredOptions ∧
      ToolMetadata.ofOptions gatheredOptions =
        .ok (some { name := "find", description := "Finds." }) := by
  have hscattered : Carries ToolMetadata.optionNumber scatteredOptions
      [⟨51234, .varint 7⟩, ⟨51234, .delimited (textRecord 1 "draft" ++ textRecord 9 "x")⟩,
        ⟨33, .varint 1⟩, ⟨51234, .delimited
          (uintRecord 2 5 ++ textRecord 2 "Finds." ++ textRecord 1 "find")⟩]
      [⟨1, .delimited (Text.utf8 "draft")⟩, ⟨9, .delimited (Text.utf8 "x")⟩, ⟨2, .varint 5⟩,
        ⟨2, .delimited (Text.utf8 "Finds.")⟩, ⟨1, .delimited (Text.utf8 "find")⟩] :=
    carries_of_payloads (by decide +kernel) (by decide +kernel) (by decide +kernel)
  have hgathered : Carries ToolMetadata.optionNumber gatheredOptions
      [⟨51234, .delimited (textRecord 1 "draft" ++ textRecord 2 "Finds." ++ textRecord 1 "find")⟩]
      [⟨1, .delimited (Text.utf8 "draft")⟩, ⟨2, .delimited (Text.utf8 "Finds.")⟩,
        ⟨1, .delimited (Text.utf8 "find")⟩] :=
    carries_of_payloads (by decide +kernel) (by decide +kernel) (by decide +kernel)
  refine ⟨?_, by decide +kernel⟩
  refine ofOptions_last_record.2.2.1.rearranged _ _ _ _ _ _ hscattered hgathered ?_
    (by decide +kernel)
  rw [present_iff, present_iff]
  decide +kernel

end ToolBindings
