import ToolBindings.Proofs.Metadata
import ToolBindings.Proofs.Wire.Grammar

/-!
# Which options can be read

Options are read as metadata if they are a message by the grammar, if what they hold under the
number of the metadata is a message too, and if that has only texts where texts belong. Nothing else
is refused, and there is only one way to refuse.

* `FollowsGrammar`: options that can be read.
* `exists_readOptions`: the reading of options, whatever texts the message has.
* `ofOptions_grammar`: tool and field metadata is read from the options that follow the grammar, and
  all others are malformed.
* `positive_grammar_differs`: the field numbers from 1 on are not the ones that are admitted.
-/
namespace ToolBindings
open Wire

/-- Options that are a message, in which each delimited record of a number is a message too, with
texts in its delimited records of some numbers, also where a later text counts. -/
def FollowsGrammar (rules : Rules) (number : Nat) (texts : List Nat) (options : Octets) : Prop :=
  ∃ records, IsMessage rules false maxNesting options records ∧
    ∀ part, ⟨number, .delimited part⟩ ∈ records →
      ∃ inner, IsMessage rules false (maxNesting - 1) part inner ∧
        ∀ field ∈ texts, ∀ octets, ⟨field, .delimited octets⟩ ∈ inner →
          ∃ text, octets = Text.utf8 text

/-! ## What a message holds -/

section
variable {number : Nat} {options : Octets} {records inner : List Record}

theorem mem_iff_of_mapM {α β : Type} {f : α → Option β} {xs : List α} {ys : List β}
    (h : xs.mapM f = some ys) (y : β) : y ∈ ys ↔ ∃ x ∈ xs, f x = some y := by
  rw [mapM_eq_some] at h
  induction h with
  | nil => simp
  | cons hx _ ih =>
    simp only [List.mem_cons, exists_eq_or_imp, hx, ih, Option.some.injEq, eq_comm (a := y)]

/-- The records of the message in options are those of its parts. -/
theorem mem_inner_iff (h : Carries number options records inner) {r : Record} :
    r ∈ inner ↔ ∃ part rs, ⟨number, .delimited part⟩ ∈ records ∧
      records? (maxNesting - 1) part = some rs ∧ r ∈ rs := by
  obtain ⟨parts, hparts⟩ : ∃ parts,
      (payloads number records).mapM (records? (maxNesting - 1)) = some parts :=
    exists_mapM_eq_some.2 fun part hm => h.parts part (mem_payloads.1 hm)
  have hinner := h.inner
  rw [merged, records?_flatten hparts, Option.some.injEq] at hinner
  simp only [← hinner, List.mem_flatten, mem_iff_of_mapM hparts, mem_payloads]
  constructor
  · rintro ⟨rs, ⟨part, hm, hr⟩, hin⟩
    exact ⟨part, rs, hm, hr, hin⟩
  · rintro ⟨part, rs, hm, hr, hin⟩
    exact ⟨rs, ⟨part, hm, hr⟩, hin⟩

/-- Options carry a message exactly if they and its parts are messages. -/
theorem exists_carries_iff :
    (∃ inner, Carries number options records inner) ↔
      records? maxNesting options = some records ∧
        ∀ part, ⟨number, .delimited part⟩ ∈ records →
          ∃ rs, records? (maxNesting - 1) part = some rs := by
  constructor
  · rintro ⟨inner, h⟩
    exact ⟨h.outer, fun part hm => Option.isSome_iff_exists.1 (h.parts part hm)⟩
  · rintro ⟨houter, hparts⟩
    have hall : ∀ part ∈ payloads number records, isMessage (maxNesting - 1) part = true :=
      fun part hm => Option.isSome_iff_exists.2 (hparts part (mem_payloads.1 hm))
    obtain ⟨parts, hmap⟩ := exists_mapM_eq_some.2 hall
    exact ⟨_, carries_of_payloads houter hall (records?_flatten hmap)⟩

theorem exists_text?_iff :
    (∃ text, text? number records = some text) ↔
      ∀ octets, ⟨number, .delimited octets⟩ ∈ records → ∃ text, octets = Text.utf8 text := by
  have htexts : (∃ text, text? number records = some text) ↔
      ∃ texts, texts? number records = some texts := by
    simp only [← Option.isSome_iff_exists, text?, Option.isSome_map]
  rw [htexts, texts?, exists_mapM_eq_some]
  simp only [mem_payloads, Option.isSome_iff_exists, Text.ofUtf8?_eq_some]

end

/-! ## Reading options -/

section
variable {α : Type} {number : Nat} {texts : List Nat} {value? : List Record → Option α}
  {options : Octets}

/-- A message that has a value exactly if certain records are texts is read from the options that
follow the grammar. -/
theorem exists_readOptions
    (hvalue : ∀ inner, (∃ value, value? inner = some value) ↔
      ∀ field ∈ texts, ∃ text, text? field inner = some text) :
    (∃ result, readOptions number value? options = .ok result) ↔
      FollowsGrammar .wire number texts options := by
  constructor
  · rintro ⟨result, h⟩
    obtain ⟨records, inner, hcarries, hresult⟩ := readOptions_eq_ok.1 h
    refine ⟨records, records?_eq_some.1 hcarries.outer, fun part hm => ?_⟩
    obtain ⟨rs, hrs⟩ := (exists_carries_iff.1 ⟨inner, hcarries⟩).2 part hm
    refine ⟨rs, records?_eq_some.1 hrs, fun field hfield octets hoctets => ?_⟩
    rcases hresult with ⟨habsent, -⟩ | ⟨-, value, hv, -⟩
    · exact absurd ⟨part, hm⟩ habsent
    · exact exists_text?_iff.1 ((hvalue inner).1 ⟨value, hv⟩ field hfield) octets
        ((mem_inner_iff hcarries).2 ⟨part, rs, hm, hrs, hoctets⟩)
  · rintro ⟨records, hrecords, hparts⟩
    have houter := records?_eq_some.2 hrecords
    have hread : ∀ part, ⟨number, .delimited part⟩ ∈ records →
        ∃ rs, records? (maxNesting - 1) part = some rs := by
      intro part hm
      obtain ⟨rs, hrs, -⟩ := hparts part hm
      exact ⟨rs, records?_eq_some.2 hrs⟩
    obtain ⟨inner, hcarries⟩ := exists_carries_iff.2 ⟨houter, hread⟩
    by_cases hpresent : Present number records
    · have htexts : ∀ field ∈ texts, ∃ text, text? field inner = some text := by
        refine fun field hfield => exists_text?_iff.2 fun octets hm => ?_
        obtain ⟨part, rs, hpart, hrs, hin⟩ := (mem_inner_iff hcarries).1 hm
        obtain ⟨rs', hrs', hall⟩ := hparts part hpart
        obtain rfl : rs' = rs := Option.some.inj ((records?_eq_some.2 hrs').symm.trans hrs)
        exact hall field hfield octets hin
      obtain ⟨value, hv⟩ := (hvalue inner).2 htexts
      exact ⟨some value,
        readOptions_eq_ok.2 ⟨records, inner, hcarries, .inr ⟨hpresent, value, hv, rfl⟩⟩⟩
    · exact ⟨none, readOptions_eq_ok.2 ⟨records, inner, hcarries, .inl ⟨hpresent, rfl⟩⟩⟩

theorem embeddedMessage_eq_error {failure : Failure}
    (h : embeddedMessage number options = .error failure) : failure = .malformed := by
  unfold embeddedMessage at h
  split at h
  · cases h; rfl
  · split at h
    · cases h
    · split at h
      · cases h; rfl
      · cases h

/-- There is only one way to refuse options. -/
theorem readOptions_eq_malformed :
    readOptions number value? options = .error .malformed ↔
      ¬∃ result, readOptions number value? options = .ok result := by
  constructor
  · rintro h ⟨result, hok⟩
    rw [h] at hok
    cases hok
  · intro h
    cases hread : readOptions number value? options with
    | ok result => exact absurd ⟨result, hread⟩ h
    | error failure =>
      unfold readOptions at hread
      cases hmessage : embeddedMessage number options with
      | error other =>
        rw [hmessage] at hread
        cases hread
        rw [embeddedMessage_eq_error hmessage]
      | ok message? =>
        rw [hmessage, ok_bind] at hread
        split at hread
        · cases hread
        · split at hread
          · cases hread; rfl
          · cases hread

end

theorem ToolMetadata.exists_ofRecords? (inner : List Record) :
    (∃ metadata, ToolMetadata.ofRecords? inner = some metadata) ↔
      ∀ field ∈ [1, 2], ∃ text, text? field inner = some text := by
  simp only [ToolMetadata.ofRecords?, Option.bind_eq_bind, Option.bind_eq_some_iff, Option.pure_def,
    Option.some.injEq, List.forall_mem_cons]
  constructor
  · rintro ⟨_, name, hname, description, hdescription, -⟩
    exact ⟨⟨name, hname⟩, ⟨description, hdescription⟩, List.forall_mem_nil _⟩
  · rintro ⟨⟨name, hname⟩, ⟨description, hdescription⟩, -⟩
    exact ⟨_, name, hname, description, hdescription, rfl⟩

theorem FieldMetadata.exists_ofRecords? (inner : List Record) :
    (∃ metadata, FieldMetadata.ofRecords? inner = some metadata) ↔
      ∀ field ∈ [1, 3], ∃ text, text? field inner = some text := by
  simp only [FieldMetadata.ofRecords?, Option.bind_eq_bind, Option.bind_eq_some_iff,
    Option.pure_def, Option.some.injEq, List.forall_mem_cons]
  constructor
  · rintro ⟨_, description, hdescription, sample, hsample, -⟩
    exact ⟨⟨description, hdescription⟩, ⟨sample, hsample⟩, List.forall_mem_nil _⟩
  · rintro ⟨⟨description, hdescription⟩, ⟨sample, hsample⟩, -⟩
    exact ⟨_, description, hdescription, sample, hsample, rfl⟩

/-- Tool and field metadata is read exactly from the options that follow the grammar. All other
options are malformed, and nothing else comes of the reading. It goes from record to record, and
each is read without what comes behind it. -/
theorem ofOptions_grammar :
    (∀ options, (∃ metadata?, ToolMetadata.ofOptions options = .ok metadata?) ↔
      FollowsGrammar .wire ToolMetadata.optionNumber [1, 2] options) ∧
    (∀ options, (∃ metadata?, FieldMetadata.ofOptions options = .ok metadata?) ↔
      FollowsGrammar .wire FieldMetadata.optionNumber [1, 3] options) ∧
    (∀ options, ToolMetadata.ofOptions options = .error .malformed ↔
      ¬FollowsGrammar .wire ToolMetadata.optionNumber [1, 2] options) ∧
    (∀ options, FieldMetadata.ofOptions options = .error .malformed ↔
      ¬FollowsGrammar .wire FieldMetadata.optionNumber [1, 3] options) ∧
    (∀ octets token rest, Token.read? octets = some (token, rest) ↔
      ∃ front, front ≠ [] ∧ octets = front ++ rest ∧
        ∀ more, Token.read? (front ++ more) = some (token, more)) := by
  have htool : ∀ options, (∃ result, readOptions ToolMetadata.optionNumber ToolMetadata.ofRecords?
      options = .ok result) ↔ FollowsGrammar .wire ToolMetadata.optionNumber [1, 2] options :=
    fun _ => exists_readOptions ToolMetadata.exists_ofRecords?
  have hfield : ∀ options, (∃ result, readOptions FieldMetadata.optionNumber
      FieldMetadata.ofRecords? options = .ok result) ↔
      FollowsGrammar .wire FieldMetadata.optionNumber [1, 3] options :=
    fun _ => exists_readOptions FieldMetadata.exists_ofRecords?
  refine ⟨fun options => ?_, fun options => ?_, fun options => ?_, fun options => ?_,
    fun octets token rest => Token.read?_iff_front⟩
  · rw [ToolMetadata.ofOptions_eq, htool]
  · rw [FieldMetadata.ofOptions_eq, hfield]
  · rw [ToolMetadata.ofOptions_eq, readOptions_eq_malformed, htool]
  · rw [FieldMetadata.ofOptions_eq, readOptions_eq_malformed, hfield]

/-! ## Other field numbers -/

/-- Rules that admit every field number from 1 on, in groups as well. -/
def Wire.Rules.positive : Rules where
  outside number := 0 < number
  inside number := 0 < number

/-- A group with a record of number zero in it. -/
def zeroInGroup : Octets := [0x4b, 0x00, 0x01, 0x4c]

/-- An integer with a tag of five octets that is not below 2^32. -/
def wideTag : Octets := [0x88, 0x80, 0x80, 0x80, 0x10, 0x00]

theorem not_isMessage_zeroInGroup {depth : Nat} {records : List Record} :
    ¬IsMessage .positive false depth zeroInGroup records := by
  have hstart : Varint.read? 5 zeroInGroup = some (8 * 9 + 3, [0x00, 0x01, 0x4c]) := by decide
  have hzero : Varint.read? 5 [0x00, 0x01, 0x4c] = some (0, [0x01, 0x4c]) := by decide
  intro h
  generalize he : zeroInGroup = octets at h
  rw [he] at hstart
  cases h with
  | nil => cases he
  | record htag hadmits hpayload hrest =>
    rw [htag.1.read? 5 htag.2] at hstart
    cases hpayload <;> simp at hstart <;> omega
  | @group _ _ _ _ body finish rest _ _ htag hadmits hbody hfinish hrest =>
    rw [htag.1.read? 5 htag.2, Option.some.injEq, Prod.mk.injEq] at hstart
    rw [← hstart.2] at hzero
    by_cases hnil : body = []
    · rw [hnil, List.nil_append, hfinish.1.read? 5 hfinish.2, Option.some.injEq, Prod.mk.injEq]
        at hzero
      omega
    · obtain ⟨tag, behind, number, form, rfl, hinner, -, hpositive⟩ := hbody.exists_tag hnil
      rw [List.append_assoc, hinner.1.read? 5 hinner.2, Option.some.injEq, Prod.mk.injEq] at hzero
      have : 0 < number := hpositive
      omega

theorem isMessage_wideTag {depth : Nat} :
    IsMessage .positive false depth wideTag [⟨1 + 1 <<< 29, .varint 0⟩] := by
  have htag : IsTag (1 + 1 <<< 29) 0 [0x88, 0x80, 0x80, 0x80, 0x10] :=
    ⟨.more (by decide) (.more (by decide) (.more (by decide) (.more (by decide)
      (.last (by decide))))), by decide⟩
  have hadmits : Rules.positive.Admits false (1 + 1 <<< 29) := Nat.succ_pos _
  have hpayload : IsPayload 0 [0x00] (.varint 0) := .varint (.last (by decide)) (by decide)
  exact .record htag hadmits hpayload .nil

/-- The numbers that are admitted are not those from 1 on: in a group there may be a zero, and there
is no number that needs a tag of 2^32 or more. -/
theorem positive_grammar_differs :
    (ToolMetadata.ofOptions zeroInGroup = .ok none ∧
      ¬FollowsGrammar .positive ToolMetadata.optionNumber [1, 2] zeroInGroup) ∧
    (ToolMetadata.ofOptions wideTag = .error .malformed ∧
      FollowsGrammar .positive ToolMetadata.optionNumber [1, 2] wideTag) := by
  refine ⟨⟨by decide +kernel, ?_⟩, by decide +kernel, ?_⟩
  · rintro ⟨records, hmessage, -⟩
    exact not_isMessage_zeroInGroup hmessage
  · exact ⟨_, isMessage_wideTag, by simp⟩

end ToolBindings
