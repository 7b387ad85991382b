import Mathlib.Data.List.Chain
import ToolBindings.Proofs.Naming.Boundaries
import ToolBindings.Proofs.Naming.Separation

/-!
# Canonical names

What `segment` and `identifier` make of any names is in a normal form, and they leave texts in
that form as they are.

* `IsSegment`, `isSegment_segment`: the form of segments.
* `segment_eq_trim`: what is left to do on small letters, digits and single underscores.
* `isSegment_joined`: segments joined by underscores have the form of one.
* `segment_of_isSegment`, `identifier_identifier`: the normal forms are fixed.
* `IsCanonical`, `isCanonical_identifier`: identifiers can stand as they are.
* `isToolName_of_isCanonical`: as names of tools, too, unless they are too long.
-/
namespace ToolBindings.Naming
open Text

/-- No underscore stands beside another one. -/
def SingleUnderscores (text : List Char) : Prop := text.IsChain fun c d => ¬(c = '_' ∧ d = '_')

/-- A text in the form of a segment: small letters, digits and underscores, of which none is at an
end or beside another one. -/
structure IsSegment (text : List Char) : Prop where
  chars : ∀ c ∈ text, isSegmentChar c = true
  single : SingleUnderscores text
  head : ∀ c ∈ text.head?, c ≠ '_'
  last : ∀ c ∈ text.getLast?, c ≠ '_'

/-! ## Collapsing and trimming -/

section
variable {p : Char → Bool} {text : List Char}

theorem head_collapse (text : List Char) : (collapse text).head? = text.head? := by
  induction text with
  | nil => rfl
  | cons c rest ih =>
    unfold collapse
    split
    · next h => rw [ih, h.2, h.1]; rfl
    · rfl

theorem singleUnderscores_collapse (text : List Char) : SingleUnderscores (collapse text) := by
  induction text with
  | nil => exact List.isChain_nil
  | cons c rest ih =>
    unfold collapse
    split
    · exact ih
    · next h =>
      refine List.isChain_cons.2 ⟨fun d hd => ?_, ih⟩
      rw [head_collapse, Option.mem_def] at hd
      rintro ⟨rfl, rfl⟩
      exact h ⟨rfl, hd⟩

theorem collapse_of_singleUnderscores (h : SingleUnderscores text) : collapse text = text := by
  induction text with
  | nil => rfl
  | cons c rest ih =>
    obtain ⟨hc, hrest⟩ := List.isChain_cons.1 h
    rw [collapse, if_neg fun hboth => hc '_' hboth.2 ⟨hboth.1, rfl⟩, ih hrest]

theorem isInfix_trim (p : Char → Bool) (text : List Char) : trim p text <:+: text := by
  rw [trim_eq]
  exact (List.rdropWhile_prefix p _).isInfix.trans (List.dropWhile_suffix p).isInfix

/-- A trimmed text does not end in a character of the class. -/
theorem last_trim {c : Char} (h : (trim p text).getLast? = some c) : p c = false := by
  rw [trim_eq] at h
  have hne : (text.dropWhile p).rdropWhile p ≠ [] := by
    intro hnil
    rw [hnil] at h
    cases h
  rw [List.getLast?_eq_some_getLast hne, Option.some.injEq] at h
  rw [← h, ← Bool.not_eq_true]
  exact List.rdropWhile_last_not p _ hne

theorem trim_of_ends (hhead : ∀ c ∈ text.head?, p c = false)
    (hlast : ∀ c ∈ text.getLast?, p c = false) : trim p text = text := by
  have hfront : text.dropWhile p = text := by
    cases text with
    | nil => rfl
    | cons c rest =>
      have hc : ¬p c = true := Bool.not_eq_true _ ▸ hhead c rfl
      exact List.dropWhile_cons_of_neg hc
  rw [trim_eq, hfront, List.rdropWhile_eq_self_iff]
  intro hne
  rw [hlast _ (List.getLast?_eq_some_getLast hne)]
  exact Bool.false_ne_true

theorem trim_cons {c : Char} (h : p c = true) : trim p (c :: text) = trim p text := by
  rw [trim_eq, trim_eq, List.dropWhile_cons_of_pos h]

end

/-! ## Segments -/

theorem isSegment_segment (name : List Char) : IsSegment (segment name) where
  chars _ h := isSegmentChar_of_mem_segment h
  single := List.IsChain.infix (singleUnderscores_collapse _) (isInfix_trim _ _)
  head _ h := head_segment h
  last c h := by
    have := last_trim h
    simpa using this

section
variable {text : List Char}

theorem isCapital_segmentChar : ∀ c ∈ segmentChars, isCapital c = false :=
  forall_mem_of_all (by decide)

/-- Lowering leaves the characters of segments alone. -/
theorem lower_segmentChar : ∀ c ∈ segmentChars, c ≠ 'Σ' ∧ c ≠ 'İ' ∧ lowerOne c = c :=
  forall_mem_of_all (by decide +kernel)

theorem mark_of_not_isCapital {before : Option Char} (h : ∀ c ∈ text, isCapital c = false) :
    mark (acronymBoundary.or wordBoundary) before text = text := by
  induction text generalizing before with
  | nil => rfl
  | cons c rest ih =>
    obtain ⟨hc, hrest⟩ := List.forall_mem_cons.1 h
    have hhead : marksHead (acronymBoundary.or wordBoundary) before (c :: rest) = false := by
      cases before <;> simp [marksHead, Boundary.or, acronymBoundary, wordBoundary, hc]
    rw [mark_of_not_marksHead hhead, ih hrest]

theorem lowerAfter_of_segmentChars {before : List Char} (h : ∀ c ∈ text, c ∈ segmentChars) :
    lowerAfter before text = text := by
  induction text generalizing before with
  | nil => rfl
  | cons c rest ih =>
    obtain ⟨hc, hrest⟩ := List.forall_mem_cons.1 h
    obtain ⟨hsigma, hdotted, hlower⟩ := lower_segmentChar c hc
    rw [lowerAfter, ih hrest, if_neg hsigma, if_neg hdotted, hlower]
    rfl

theorem snakeCase_of_segmentChars (h : ∀ c ∈ text, c ∈ segmentChars) : snakeCase text = text := by
  rw [snakeCase, splitWords_eq_mark,
    mark_of_not_isCapital fun c hc => isCapital_segmentChar c (h c hc), lowerCase,
    lowerAfter_of_segmentChars h]

theorem separators_segmentChar : ∀ c ∈ segmentChars, ¬(c = '.' ∨ c = '-') :=
  forall_mem_of_all (by decide)

/-- Of a text that is made of the right characters, with single underscores, only the underscores at
its ends are taken off. -/
theorem segment_eq_trim (hchars : ∀ c ∈ text, isSegmentChar c = true)
    (hsingle : SingleUnderscores text) : segment text = trim (· == '_') text := by
  have hmem : ∀ c ∈ text, c ∈ segmentChars := fun c hc => mem_segmentChars (hchars c hc)
  have hseparated : (text.map fun c => if c = '.' ∨ c = '-' then '_' else c) = text := by
    conv_rhs => rw [← List.map_id text]
    exact List.map_congr_left fun c hc => if_neg (separators_segmentChar c (hmem c hc))
  unfold segment
  simp only [snakeCase_of_segmentChars hmem, hseparated, List.filter_eq_self.2 hchars,
    collapse_of_singleUnderscores hsingle]

theorem trim_of_isSegment (h : IsSegment text) : trim (· == '_') text = text :=
  trim_of_ends (fun c hc => by simpa using h.head c hc) fun c hc => by simpa using h.last c hc

/-- Segments stay as they are. -/
theorem segment_of_isSegment (h : IsSegment text) : segment text = text := by
  rw [segment_eq_trim h.chars h.single, trim_of_isSegment h]

/-- An underscore in front of a segment is taken off again. -/
theorem segment_underscore (h : IsSegment text) : segment ('_' :: text) = text := by
  have hsingle : SingleUnderscores ('_' :: text) :=
    List.isChain_cons.2 ⟨fun c hc hboth => h.head c hc hboth.2, h.single⟩
  have hchars : ∀ c ∈ '_' :: text, isSegmentChar c = true :=
    List.forall_mem_cons.2 ⟨by decide, h.chars⟩
  rw [segment_eq_trim hchars hsingle, trim_cons (by rfl), trim_of_isSegment h]

end

/-! ## Joined segments -/

theorem IsSegment.glue {a b : List Char} (ha : IsSegment a) (hb : IsSegment b) :
    IsSegment (Naming.glue a b) := by
  unfold Naming.glue
  split
  · exact hb
  split
  · exact ha
  next hane hbne =>
  refine ⟨?_, ?_, ?_, ?_⟩
  · intro c hc
    rcases List.mem_append.1 hc with hc | hc
    · exact ha.chars c hc
    · rcases List.mem_cons.1 hc with rfl | hc
      · decide
      · exact hb.chars c hc
  · refine List.isChain_append.2 ⟨ha.single, List.isChain_cons.2 ⟨?_, hb.single⟩, ?_⟩
    · exact fun c hc hboth => hb.head c hc hboth.2
    · exact fun c hc _ _ hboth => ha.last c hc hboth.1
  · rw [List.head?_append_of_ne_nil _ hane]
    exact ha.head
  · rw [List.getLast?_append_of_ne_nil _ (List.cons_ne_nil _ _), List.getLast?_cons_of_ne_nil hbne]
    exact hb.last

theorem isSegment_joined (names : List (List Char)) : IsSegment (joined names) := by
  induction names with
  | nil => exact ⟨nofun, List.isChain_nil, nofun, nofun⟩
  | cons name names ih =>
    rw [joined_cons]
    exact (isSegment_segment name).glue ih

/-! ## Identifiers -/

theorem segment_identifier (names : List (List Char)) :
    segment (identifier names) = joined names := by
  rw [identifier_eq]
  split
  · exact segment_underscore (isSegment_joined names)
  · exact segment_of_isSegment (isSegment_joined names)

/-- An identifier is its own identifier: the underscore that it may have in front comes off and is
put there again. -/
theorem identifier_identifier (names : List (List Char)) :
    identifier [identifier names] = identifier names := by
  rw [identifier_inj, joined_singleton, segment_identifier]

theorem singleUnderscores_identifier (names : List (List Char)) :
    SingleUnderscores (identifier names) := by
  have h := isSegment_joined names
  rw [identifier_eq]
  split
  · exact List.isChain_cons.2 ⟨fun c hc hboth => h.head c hc hboth.2, h.single⟩
  · exact h.single

/-! ## Tool names -/

/-- A name of small letters, digits and single underscores that can stand as it is. -/
structure IsCanonical (name : String) : Prop where
  ne_empty : name ≠ ""
  chars : ∀ c ∈ name.toList, c ∈ segmentChars
  single : ¬['_', '_'] <:+: name.toList
  head : ∀ c ∈ name.toList.head?, c.isDigit = false
  not_keyword : isKeyword name.toList = false

theorem isCanonical_identifier (names : List (List Char)) :
    IsCanonical (String.ofList (identifier names)) := by
  obtain ⟨c, rest, he, hdigit, hkeyword⟩ := exists_identifier names
  have hlist : (String.ofList (identifier names)).toList = identifier names :=
    String.toList_ofList
  refine ⟨?_, ?_, ?_, ?_, ?_⟩
  · intro hempty
    rw [← String.toList_inj, hlist, he] at hempty
    cases hempty
  · rw [hlist]
    exact fun d hd => mem_segmentChars (isSegmentChar_of_mem_identifier hd)
  · rw [hlist]
    intro hinfix
    have hpair := List.IsChain.infix (singleUnderscores_identifier names) hinfix
    exact (List.isChain_cons_cons.1 hpair).1 ⟨rfl, rfl⟩
  · rw [hlist, he]
    rintro _ ⟨⟩
    exact hdigit
  · rw [hlist]
    exact hkeyword

/-- The characters of tool names: A to Z, a to z, 0 to 9, the underscore and the hyphen. -/
def IsNameChar (c : Char) : Prop :=
  ('A' ≤ c ∧ c ≤ 'Z') ∨ ('a' ≤ c ∧ c ≤ 'z') ∨ ('0' ≤ c ∧ c ≤ '9') ∨ c = '_' ∨ c = '-'

theorem isNameChar_iff {c : Char} :
    (c.isAlphanum || c == '_' || c == '-') = true ↔ IsNameChar c := by
  have hranges : c.isAlphanum =
      (decide ('A' ≤ c ∧ c ≤ 'Z') || decide ('a' ≤ c) && decide (c ≤ 'z') ||
        decide ('0' ≤ c) && decide (c ≤ '9')) := rfl
  simp only [hranges, IsNameChar, Bool.or_eq_true, Bool.and_eq_true, decide_eq_true_eq, beq_iff_eq,
    or_assoc]

theorem isToolName_iff {name : String} :
    isToolName name = true ↔
      1 ≤ name.length ∧ name.length ≤ 64 ∧ ∀ c ∈ name.toList, IsNameChar c := by
  simp only [isToolName, String.length_toList, Bool.and_eq_true, decide_eq_true_eq,
    List.all_eq_true, isNameChar_iff, and_assoc]
  rfl

theorem isNameChar_segmentChar {c : Char} (h : c ∈ segmentChars) : IsNameChar c := by
  have hall : ∀ c ∈ segmentChars, (c.isAlphanum || c == '_' || c == '-') = true :=
    forall_mem_of_all (by decide)
  exact isNameChar_iff.1 (hall c h)

/-- Only its length can make a canonical name unusable for a tool. -/
theorem isToolName_of_isCanonical {name : String} (h : IsCanonical name) :
    isToolName name = true ↔ name.length ≤ 64 := by
  have hpositive : 1 ≤ name.length := by
    rw [← String.length_toList]
    exact List.length_pos_iff.2 fun hnil => h.ne_empty (String.toList_eq_nil_iff.1 hnil)
  rw [isToolName_iff]
  exact ⟨fun hname => hname.2.1, fun hlength =>
    ⟨hpositive, hlength, fun c hc => isNameChar_segmentChar (h.chars c hc)⟩⟩

end ToolBindings.Naming
