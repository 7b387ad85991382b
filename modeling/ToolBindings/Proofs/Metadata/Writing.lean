import ToolBindings.Proofs.Metadata
import ToolBindings.Proofs.Wire.Writing

/-!
# Metadata is read back from options

Options hold metadata as one record whose octets are a message. In that message each value has a
record of its own, but not if it is the one that counts without a record. What else the options
hold, in front or behind, has no part in it.

* `IsBeside`, `IsReadBack`: what can stand beside the metadata, and what it means to be read back.
* `carries_beside`, `isComplete_beside`, `accepts_beside`: the record is found among others, and
  they are as good as before.
* `ToolMetadata.inner`, `FieldMetadata.inner`: the records of the message; `ofRecords?_inner` and
  `exists_content` of both say that they are written and what they say.
* `metadata_toOptions`: metadata of both kinds is read back.
-/
namespace ToolBindings
open Wire

/-- Complete records, none of them of a number. -/
def IsBeside (number : Nat) (octets : Octets) : Prop :=
  ∃ records, records? maxNesting octets = some records ∧ ∀ r ∈ records, r.number ≠ number

/-- Octets that stand for a value among the options of a kind. It is read whatever stands beside
them, and they are no reason to refuse the options. -/
structure IsReadBack {α : Type} (kind : MessageKind) (number : Nat)
    (readValue : Octets → Except Failure (Option α)) (written : Octets) (value : α) : Prop where
  read : ∀ before after, IsBeside number before → IsBeside number after →
    readValue (before ++ written ++ after) = .ok (some value)
  accepted : ∀ before after, kind.accepts before = true → kind.accepts after = true →
    kind.accepts (before ++ written ++ after) = true
  complete : ∀ before after, isComplete before = true → isComplete after = true →
    isComplete (before ++ written ++ after) = true

/-! ## One record among others -/

section
variable {number : Nat} {part before after : Octets} {records inner front back : List Record}

theorem payloads_of_other (h : ∀ r ∈ records, r.number ≠ number) : payloads number records = [] :=
  payloads_eq_nil.2 fun _ hm => h _ hm rfl

/-- One record with a message, among records that are none of that message. -/
theorem carries_beside (hn : IsNumber number)
    (hsize : (delimitedRecord number part).length < sizeLimit) (hpart : Writes part inner)
    (hbefore : IsBeside number before) (hafter : IsBeside number after) :
    ∃ records, Carries number (before ++ delimitedRecord number part ++ after) records inner ∧
      Present number records := by
  obtain ⟨front, hfront, hf⟩ := hbefore
  obtain ⟨back, hback, hb⟩ := hafter
  have hpayloads : payloads number (front ++ (⟨number, .delimited part⟩ :: back)) = [part] := by
    rw [payloads_append, payloads_of_other hf, payloads_cons_delimited, if_pos rfl,
      payloads_of_other hb, List.nil_append]
  refine ⟨front ++ (⟨number, .delimited part⟩ :: back), carries_of_payloads ?_ ?_ ?_, ?_⟩
  · rw [List.append_assoc, records?_append _ hfront, writes_delimitedRecord hn hsize, hback]
    rfl
  · intro other hm
    rw [hpayloads, List.mem_singleton] at hm
    rw [hm, isMessage, hpart.records?]
    rfl
  · rw [merged, hpayloads, List.flatten_singleton, hpart.records?]
  · rw [present_iff, hpayloads]
    exact List.cons_ne_nil _ _

/-- What the message says is read, whatever stands beside its record. -/
theorem readOptions_beside {α : Type} {value? : List Record → Option α} {value : α}
    (hn : IsNumber number) (hsize : (delimitedRecord number part).length < sizeLimit)
    (hpart : Writes part inner) (hvalue : value? inner = some value)
    (hbefore : IsBeside number before) (hafter : IsBeside number after) :
    readOptions number value? (before ++ delimitedRecord number part ++ after) =
      .ok (some value) := by
  obtain ⟨records, hcarries, hpresent⟩ := carries_beside hn hsize hpart hbefore hafter
  exact readOptions_eq_ok.2 ⟨records, inner, hcarries, .inr ⟨hpresent, value, hvalue, rfl⟩⟩

/-- Raw options are complete in all parts or in none. -/
theorem isComplete_append (hbefore : records? maxNesting before = some front) :
    isComplete (before ++ after) = (isComplete before && isComplete after) := by
  unfold isComplete
  rw [records?_append _ hbefore, hbefore]
  cases records? maxNesting after with
  | none => simp
  | some back => simp only [Option.map_some, payloads_append, List.all_append]

/-- A record of metadata is no raw option. -/
theorem isComplete_beside (hn : IsNumber number) (hraw : number ≠ MessageKind.rawOptionNumber)
    (hsize : (delimitedRecord number part).length < sizeLimit) (hbefore : isComplete before = true)
    (hafter : isComplete after = true) :
    isComplete (before ++ delimitedRecord number part ++ after) = true := by
  have hwrites := writes_delimitedRecord hn hsize
  have hrecord : isComplete (delimitedRecord number part) = true := by
    unfold isComplete
    rw [hwrites.records?]
    simp only [payloads_cons_delimited, if_neg hraw, payloads_nil, List.all_nil]
  obtain ⟨front, hfront⟩ : ∃ front, records? maxNesting before = some front := by
    unfold isComplete at hbefore
    split at hbefore
    · cases hbefore
    · next front hfront => exact ⟨front, hfront⟩
  rw [List.append_assoc, isComplete_append hfront, isComplete_append (hwrites.records? _), hbefore,
    hrecord, hafter]
  rfl

/-- A record of metadata is one that options may hold without being known to the compiler. -/
theorem accepts_beside {kind : MessageKind} (hn : IsNumber number)
    (hlayout : MessageKind.layout kind number = none)
    (hsize : (delimitedRecord number part).length < sizeLimit)
    (hbefore : kind.accepts before = true) (hafter : kind.accepts after = true) :
    kind.accepts (before ++ delimitedRecord number part ++ after) = true := by
  obtain ⟨front, hfront⟩ := Option.isSome_iff_exists.1 (records?_of_conforms hbefore)
  obtain ⟨back, hback⟩ := Option.isSome_iff_exists.1 (records?_of_conforms hafter)
  have hrecords : records? maxNesting (before ++ delimitedRecord number part ++ after) =
      some (front ++ ([⟨number, .delimited part⟩] ++ back)) := by
    rw [List.append_assoc, records?_append _ hfront, writes_delimitedRecord hn hsize, hback]
    rfl
  have hrecord : AllHold MessageKind.layout maxNesting kind [⟨number, .delimited part⟩] := by
    intro other octets hm
    obtain ⟨rfl, rfl⟩ : other = number ∧ octets = part := by simpa using hm
    rw [hlayout]
    trivial
  unfold MessageKind.accepts at hbefore hafter ⊢
  rw [conforms_iff hrecords, allHold_append, allHold_append]
  exact ⟨(conforms_iff hfront).1 hbefore, hrecord, (conforms_iff hback).1 hafter⟩

end

/-! ## The message -/

/-- The record of a text that is left out if it is empty. -/
def textRecords (number : Nat) (text : String) : List Record :=
  optionalRecord (text ≠ "") ⟨number, .delimited (Text.utf8 text)⟩

section
variable {number : Nat} {text : String} {records : List Record}

theorem writes_nonemptyText (hn : IsNumber number)
    (hsize : (nonemptyText number text).length < sizeLimit) :
    Writes (nonemptyText number text) (textRecords number text) := by
  unfold nonemptyText at hsize ⊢
  by_cases h : text = ""
  · simpa [h, textRecords, optionalRecord] using Writes.nil
  · rw [if_neg h, textRecord] at hsize
    simpa [h, textRecords, optionalRecord, textRecord] using writes_delimitedRecord hn hsize

@[simp] theorem payloads_textRecords (other : Nat) :
    payloads other (textRecords number text) =
      if number = other then if text ≠ "" then [Text.utf8 text] else [] else [] := by
  simp [textRecords]

@[simp] theorem uints_textRecords (other : Nat) : uints other (textRecords number text) = [] :=
  uints_optional_delimited _ _ _

/-- A text is read if its record, or none for the empty text, is all that is selected. -/
theorem text?_of_textRecords
    (h : payloads number records = if text ≠ "" then [Text.utf8 text] else []) :
    text? number records = some text := by
  have hselected : payloads number records =
      if decide (text ≠ "") = true then [Text.utf8 text] else [] := by simpa using h
  exact text?_of_optional hselected (by simp)

end

namespace ToolMetadata
variable {metadata : ToolMetadata}

def inner (metadata : ToolMetadata) : List Record :=
  textRecords 1 metadata.name ++ textRecords 2 metadata.description

theorem ofRecords?_inner (metadata : ToolMetadata) : ofRecords? metadata.inner = some metadata := by
  have hname : text? 1 metadata.inner = some metadata.name := text?_of_textRecords (by simp [inner])
  have hdescription : text? 2 metadata.inner = some metadata.description :=
    text?_of_textRecords (by simp [inner])
  rw [ofRecords?, hname, hdescription]
  rfl

theorem exists_content (hsize : metadata.toOptions.length < sizeLimit) :
    ∃ part, metadata.toOptions = delimitedRecord optionNumber part ∧
      Writes part metadata.inner := by
  have hpart := Nat.lt_of_le_of_lt (length_le_delimitedRecord _ _) hsize
  rw [List.length_append] at hpart
  exact ⟨_, rfl, (writes_nonemptyText (by decide) (by omega)).append
    (writes_nonemptyText (by decide) (by omega))⟩

end ToolMetadata

namespace FieldMetadata
variable {metadata : FieldMetadata}

def inner (metadata : FieldMetadata) : List Record :=
  textRecords 1 metadata.description ++ optionalRecord metadata.required ⟨2, .varint 1⟩ ++
    textRecords 3 metadata.sample

theorem ofRecords?_inner (metadata : FieldMetadata) :
    ofRecords? metadata.inner = some metadata := by
  have hdescription : text? 1 metadata.inner = some metadata.description :=
    text?_of_textRecords (by simp [inner])
  have hrequired : flag 2 metadata.inner = metadata.required := by
    unfold flag inner
    cases metadata.required <;> simp [optionalRecord]
  have hsample : text? 3 metadata.inner = some metadata.sample :=
    text?_of_textRecords (by simp [inner])
  rw [ofRecords?, hdescription, hrequired, hsample]
  rfl

theorem exists_content (hsize : metadata.toOptions.length < sizeLimit) :
    ∃ part, metadata.toOptions = delimitedRecord optionNumber part ∧
      Writes part metadata.inner := by
  have hpart := Nat.lt_of_le_of_lt (length_le_delimitedRecord _ _) hsize
  rw [List.length_append, List.length_append] at hpart
  have hflag : Writes (if metadata.required then uintRecord 2 1 else [])
      (optionalRecord metadata.required ⟨2, .varint 1⟩) := by
    cases metadata.required with
    | true => exact writes_uintRecord (by decide) (by decide)
    | false => exact .nil
  exact ⟨_, rfl, ((writes_nonemptyText (by decide) (by omega)).append hflag).append
    (writes_nonemptyText (by decide) (by omega))⟩

end FieldMetadata

/-! ## Both -/

theorem isReadBack_of_content {α : Type} {kind : MessageKind} {number : Nat}
    {value? : List Record → Option α} {part : Octets} {inner : List Record} {value : α}
    (hn : IsNumber number) (hraw : number ≠ MessageKind.rawOptionNumber)
    (hlayout : MessageKind.layout kind number = none)
    (hsize : (delimitedRecord number part).length < sizeLimit) (hpart : Writes part inner)
    (hvalue : value? inner = some value) :
    IsReadBack kind number (readOptions number value?) (delimitedRecord number part) value where
  read _ _ hbefore hafter := readOptions_beside hn hsize hpart hvalue hbefore hafter
  accepted _ _ hbefore hafter := accepts_beside hn hlayout hsize hbefore hafter
  complete _ _ hbefore hafter := isComplete_beside hn hraw hsize hbefore hafter

/-- What is written into options is read from them: any tool metadata and any field metadata that
fits into a message, even without content, by itself or with complete records of other numbers in
front and behind. Methods and fields with such options say what was written. -/
theorem metadata_toOptions :
    (∀ metadata : ToolMetadata, metadata.toOptions.length < sizeLimit →
      IsReadBack .methodOptions ToolMetadata.optionNumber ToolMetadata.ofOptions metadata.toOptions
        metadata) ∧
    (∀ metadata : FieldMetadata, metadata.toOptions.length < sizeLimit →
      IsReadBack .fieldOptions FieldMetadata.optionNumber FieldMetadata.ofOptions
        metadata.toOptions metadata) ∧
    (∀ method : Method, isComplete method.options = true →
      method.metadata = ToolMetadata.ofOptions method.options) ∧
    (∀ field : Field, isComplete field.options = true →
      field.metadata = FieldMetadata.ofOptions field.options) := by
  refine ⟨fun metadata hsize => ?_, fun metadata hsize => ?_, fun method h => ?_, fun field h => ?_⟩
  · obtain ⟨part, hpart, hinner⟩ := ToolMetadata.exists_content hsize
    rw [hpart] at hsize ⊢
    rw [funext ToolMetadata.ofOptions_eq]
    exact isReadBack_of_content (by decide) (by decide) rfl hsize hinner metadata.ofRecords?_inner
  · obtain ⟨part, hpart, hinner⟩ := FieldMetadata.exists_content hsize
    rw [hpart] at hsize ⊢
    rw [funext FieldMetadata.ofOptions_eq]
    exact isReadBack_of_content (by decide) (by decide) rfl hsize hinner metadata.ofRecords?_inner
  · rw [Method.metadata, completeOptions, if_pos h, ok_bind]
  · rw [Field.metadata, completeOptions, if_pos h, ok_bind]

/-- Options of a deprecated method with tool metadata in the middle. -/
def taggedOptions : Octets :=
  uintRecord 33 1 ++ ToolMetadata.toOptions { name := "größe", description := "" } ++
    textRecord 51235 "Not for tools."

theorem metadata_toOptions_tagged :
    ({ options := taggedOptions } : Method).metadata = .ok (some { name := "größe" }) ∧
      FieldMetadata.ofOptions (FieldMetadata.toOptions {}) = .ok (some {}) := by
  have hbefore : IsBeside ToolMetadata.optionNumber (uintRecord 33 1) :=
    ⟨[⟨33, .varint 1⟩], by decide +kernel, by simp [ToolMetadata.optionNumber]⟩
  have hafter : IsBeside ToolMetadata.optionNumber (textRecord 51235 "Not for tools.") :=
    ⟨[⟨51235, .delimited (Text.utf8 "Not for tools.")⟩], by decide +kernel,
      by simp [ToolMetadata.optionNumber]⟩
  have hnone : IsBeside FieldMetadata.optionNumber [] := ⟨[], by decide +kernel, by simp⟩
  have htool := metadata_toOptions.1 { name := "größe" } (by decide +kernel)
  have hfield := metadata_toOptions.2.1 {} (by decide +kernel)
  have hcomplete : isComplete taggedOptions = true :=
    htool.complete _ _ (by decide +kernel) (by decide +kernel)
  refine ⟨?_, ?_⟩
  · rw [metadata_toOptions.2.2.1 _ hcomplete]
    exact htool.read _ _ hbefore hafter
  · have hread := hfield.read [] [] hnone hnone
    rwa [List.append_nil] at hread

end ToolBindings
