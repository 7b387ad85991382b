import Mathlib.Data.List.DropRight
import ToolBindings.Naming.Identifier

/-!
# What identifiers are made of

`identifier` joins the segments of several names and may put an underscore in
front. `joined` is the text before that underscore, so everything about
identifiers is first a fact about `joined`.

* `isSegmentChar_of_mem_segment`, `head_segment`: a segment has small letters,
  digits and underscores only, and never begins with an underscore.
* `joined_append`: joining two lists of names glues what each of them gives.
* `identifier_inj`: the underscore in front hides nothing, so two identifiers
  are equal exactly if the joined segments are.
* `joined_append_left_inj`, `joined_append_right_inj`: a fixed name in front or
  behind that has a segment hides nothing either.
-/
namespace ToolBindings.Naming
open Text

/-! ## Segments -/

theorem trim_eq (p : Char → Bool) (text : List Char) :
    trim p text = (text.dropWhile p).rdropWhile p := rfl

theorem trim_sublist (p : Char → Bool) (text : List Char) : (trim p text).Sublist text := by
  rw [trim_eq]
  exact (List.rdropWhile_prefix p _).sublist.trans (List.dropWhile_sublist p)

/-- A trimmed text does not begin with a character of the class. -/
theorem head_trim {p : Char → Bool} {text : List Char} {c : Char}
    (h : (trim p text).head? = some c) : p c = false := by
  rw [trim_eq] at h
  obtain ⟨rest, hr⟩ := List.rdropWhile_prefix p (text.dropWhile p)
  have hd : (text.dropWhile p).head? = some c := by
    rw [← hr, List.head?_append, h]; rfl
  have := List.head?_dropWhile_not p text
  rwa [hd] at this

theorem mem_of_mem_collapse {text : List Char} {c : Char} (h : c ∈ collapse text) : c ∈ text := by
  induction text with
  | nil => simp [collapse] at h
  | cons d rest ih =>
    unfold collapse at h
    split at h
    · exact List.mem_cons_of_mem _ (ih h)
    · rcases List.mem_cons.1 h with rfl | h
      · exact List.mem_cons_self
      · exact List.mem_cons_of_mem _ (ih h)

theorem isSegmentChar_of_mem_segment {name : List Char} {c : Char} (h : c ∈ segment name) :
    isSegmentChar c = true := by
  unfold segment at h
  have hm := mem_of_mem_collapse ((trim_sublist _ _).subset h)
  exact (List.mem_filter.1 hm).2

theorem head_segment {name : List Char} {c : Char} (h : (segment name).head? = some c) :
    c ≠ '_' := by
  unfold segment at h
  simpa using head_trim h

/-! ## Joining -/

/-- Two texts with an underscore between them, unless one of them is empty. -/
def glue (left right : List Char) : List Char :=
  if left = [] then right else if right = [] then left else left ++ '_' :: right

theorem glue_assoc (a b c : List Char) : glue (glue a b) c = glue a (glue b c) := by
  by_cases ha : a = []
  · simp [glue, ha]
  by_cases hb : b = []
  · simp [glue, ha, hb]
  by_cases hc : c = [] <;> simp [glue, ha, hb, hc]

theorem mem_glue {a b : List Char} {c : Char} (h : c ∈ glue a b) : c ∈ a ∨ c ∈ b ∨ c = '_' := by
  unfold glue at h
  split at h
  · exact .inr (.inl h)
  · split at h
    · exact .inl h
    · simp only [List.mem_append, List.mem_cons] at h
      rcases h with h | rfl | h
      · exact .inl h
      · exact .inr (.inr rfl)
      · exact .inr (.inl h)

theorem head_glue {a b : List Char} (h : a ≠ []) : (glue a b).head? = a.head? := by
  unfold glue
  rw [if_neg h]
  split
  · rfl
  · rw [List.head?_append_of_ne_nil _ h]

theorem getLast_glue {a b : List Char} (h : b ≠ []) : (glue a b).getLast? = b.getLast? := by
  unfold glue
  split
  · rfl
  · rw [List.getLast?_append_of_ne_nil _ (by simp), List.getLast?_cons_of_ne_nil h]

theorem prefix_glue (a b : List Char) : a <+: glue a b := by
  unfold glue
  split
  · next h => rw [h]; exact List.nil_prefix
  · split
    · exact List.prefix_rfl
    · exact List.prefix_append _ _

theorem length_glue {a b : List Char} (ha : a ≠ []) (hb : b ≠ []) :
    (glue a b).length = a.length + b.length + 1 := by
  unfold glue
  rw [if_neg ha, if_neg hb, List.length_append, List.length_cons]
  omega

/-- Nothing but the empty text vanishes in front of a text. -/
theorem glue_left_inj {a b c : List Char} (hc : c ≠ []) : glue a c = glue b c ↔ a = b := by
  refine ⟨fun h => ?_, fun h => h ▸ rfl⟩
  have hl := congrArg List.length h
  by_cases ha : a = [] <;> by_cases hb : b = []
  · rw [ha, hb]
  · rw [length_glue hb hc, ha] at hl
    simp [glue] at hl
    omega
  · rw [length_glue ha hc, hb] at hl
    simp [glue] at hl
    omega
  · unfold glue at h
    rw [if_neg ha, if_neg hb, if_neg hc, if_neg hc] at h
    exact List.append_cancel_right h

theorem glue_right_inj {a b c : List Char} (ha : a ≠ []) : glue a b = glue a c ↔ b = c := by
  refine ⟨fun h => ?_, fun h => h ▸ rfl⟩
  have hl := congrArg List.length h
  by_cases hb : b = [] <;> by_cases hc : c = []
  · rw [hb, hc]
  · rw [length_glue ha hc, hb] at hl
    simp [glue, ha] at hl
    omega
  · rw [length_glue ha hb, hc] at hl
    simp [glue, ha] at hl
    omega
  · unfold glue at h
    rw [if_neg ha, if_neg ha, if_neg hb, if_neg hc] at h
    exact List.cons_inj_right _ |>.1 (List.append_cancel_left h)

/-- The segments of some names with underscores between them, the empty ones left out. -/
def joined (names : List (List Char)) : List Char :=
  ['_'].intercalate ((names.map segment).filter (· ≠ []))

theorem joined_cons (name : List Char) (names : List (List Char)) :
    joined (name :: names) = glue (segment name) (joined names) := by
  unfold joined
  rw [List.map_cons, List.filter_cons]
  by_cases hs : segment name = []
  · simp [hs, glue]
  · rw [if_pos (by simpa using hs)]
    cases hr : (names.map segment).filter (· ≠ []) with
    | nil => simp [glue]
    | cons next others =>
      have hn : next ≠ [] := by
        have hm : next ∈ (names.map segment).filter (· ≠ []) := hr ▸ List.mem_cons_self
        simpa using (List.mem_filter.1 hm).2
      have hj : ['_'].intercalate (next :: others) ≠ [] := by
        cases others with
        | nil => simpa using hn
        | cons _ _ => simp [List.intercalate_cons_cons, hn]
      rw [List.intercalate_cons_cons, glue, if_neg hs, if_neg hj, List.append_assoc]
      rfl

theorem joined_append (front back : List (List Char)) :
    joined (front ++ back) = glue (joined front) (joined back) := by
  induction front with
  | nil => simp [joined, glue]
  | cons name names ih => rw [List.cons_append, joined_cons, ih, joined_cons, glue_assoc]

theorem isSegmentChar_of_mem_joined {names : List (List Char)} {c : Char} (h : c ∈ joined names) :
    isSegmentChar c = true := by
  induction names with
  | nil => simp [joined] at h
  | cons name names ih =>
    rw [joined_cons] at h
    rcases mem_glue h with h | h | rfl
    · exact isSegmentChar_of_mem_segment h
    · exact ih h
    · decide

theorem head_joined (names : List (List Char)) {c : Char} (h : (joined names).head? = some c) :
    c ≠ '_' := by
  induction names with
  | nil => simp [joined] at h
  | cons name names ih =>
    rw [joined_cons] at h
    by_cases hs : segment name = []
    · rw [hs] at h; exact ih (by simpa [glue] using h)
    · rw [head_glue hs] at h; exact head_segment h

theorem joined_append_left_inj (a b back : List (List Char))
    (hb : joined back ≠ []) : joined (a ++ back) = joined (b ++ back) ↔ joined a = joined b := by
  rw [joined_append, joined_append, glue_left_inj hb]

theorem joined_append_right_inj (front a b : List (List Char))
    (hf : joined front ≠ []) : joined (front ++ a) = joined (front ++ b) ↔ joined a = joined b := by
  rw [joined_append, joined_append, glue_right_inj hf]

/-! ## Identifiers -/

theorem identifier_eq (names : List (List Char)) :
    identifier names =
      if needsUnderscore (joined names) then '_' :: joined names else joined names := rfl

theorem joined_suffix_identifier (names : List (List Char)) :
    joined names <:+ identifier names := by
  rw [identifier_eq]
  split
  · exact List.suffix_cons _ _
  · exact List.suffix_rfl

theorem isSegmentChar_of_mem_identifier {names : List (List Char)} {c : Char}
    (h : c ∈ identifier names) : isSegmentChar c = true := by
  rw [identifier_eq] at h
  split at h
  · rcases List.mem_cons.1 h with rfl | h
    · decide
    · exact isSegmentChar_of_mem_joined h
  · exact isSegmentChar_of_mem_joined h

/-- The joined segments do not begin with an underscore, so one in front can be told from
none. -/
theorem identifier_inj {a b : List (List Char)} :
    identifier a = identifier b ↔ joined a = joined b := by
  refine ⟨fun h => ?_, fun h => by rw [identifier_eq, identifier_eq, h]⟩
  rw [identifier_eq, identifier_eq] at h
  split at h <;> split at h
  · exact List.cons_inj_right _ |>.1 h
  · exact absurd rfl (head_joined b (by rw [← h]; rfl))
  · exact absurd rfl (head_joined a (by rw [h]; rfl))
  · exact h

end ToolBindings.Naming
