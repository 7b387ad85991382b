import ToolBindings.Proofs.Naming.Canonical
import ToolBindings.Text.Blank
import ToolBindings.Text.Split

/-!
# What cutting and trimming give

Each of the three ways to take a text apart is an equation between functions on the one side and
a description of the result on the other. The description says how the text is put together
again, and it has only one solution.

* `splitOn_eq_iff`: the pieces are free of the separator and joined by it.
* `cutFirst?_eq_some_iff`, `cutFirst?_eq_none_iff`: the part in front is free of the separator.
* `trimBlank_eq_iff`: blank space stands around what is left, which neither begins nor ends with
  it.
* `trimBlank_padded`: blank space in front and behind makes no difference to trimming.
-/
namespace ToolBindings.Text

/-! ## Pieces -/

/-- The texts that stand between the separators of a text, in order. -/
structure IsPieces (separator : Char) (pieces : List (List Char)) (text : List Char) : Prop where
  ne_nil : pieces ≠ []
  free : ∀ piece ∈ pieces, separator ∉ piece
  joined : [separator].intercalate pieces = text

section
variable {separator : Char} {text piece : List Char} {pieces : List (List Char)}

theorem splitOn_eq_splitOn (separator : Char) (text : List Char) :
    splitOn separator text = text.splitOn separator := by
  induction text with
  | nil => rfl
  | cons c rest ih =>
    rw [List.splitOn_eq_splitOnP] at ih ⊢
    rw [splitOn, List.splitOnP_cons_eq_if_modifyHead, ← ih]
    cases h : splitOn separator rest with
    | nil => exact absurd h (splitOn_ne_nil separator rest)
    | cons piece pieces => simp only [beq_iff_eq, List.modifyHead_cons]

theorem not_mem_of_mem_splitOn (h : piece ∈ splitOn separator text) : separator ∉ piece := by
  induction text generalizing piece with
  | nil =>
    rw [splitOn, List.mem_singleton] at h
    rw [h]
    exact List.not_mem_nil
  | cons c rest ih =>
    cases hrest : splitOn separator rest with
    | nil => exact absurd hrest (splitOn_ne_nil separator rest)
    | cons first others =>
      rw [hrest] at ih
      rw [splitOn, hrest] at h
      split at h
      · rcases List.mem_cons.1 h with rfl | h
        · exact List.not_mem_nil
        · exact ih h
      · next hc =>
        rcases List.mem_cons.1 h with rfl | h
        · rw [List.mem_cons, not_or]
          exact ⟨Ne.symm hc, ih List.mem_cons_self⟩
        · exact ih (List.mem_cons_of_mem _ h)

theorem isPieces_splitOn (separator : Char) (text : List Char) :
    IsPieces separator (splitOn separator text) text where
  ne_nil := splitOn_ne_nil separator text
  free _ h := not_mem_of_mem_splitOn h
  joined := intercalate_splitOn separator text

/-- A character that stands in a text joined of pieces is the separator or stands in a piece. -/
theorem mem_intercalate {c : Char} (h : c ∈ [separator].intercalate pieces) :
    c = separator ∨ ∃ piece ∈ pieces, c ∈ piece := by
  induction pieces with
  | nil => cases h
  | cons piece pieces ih =>
    cases pieces with
    | nil =>
      rw [List.intercalate_singleton] at h
      exact .inr ⟨piece, List.mem_cons_self, h⟩
    | cons next others =>
      rw [List.intercalate_cons_cons, List.append_assoc, List.mem_append, List.singleton_append,
        List.mem_cons] at h
      rcases h with h | rfl | h
      · exact .inr ⟨piece, List.mem_cons_self, h⟩
      · exact .inl rfl
      · obtain hc | ⟨other, hother, hc⟩ := ih h
        · exact .inl hc
        · exact .inr ⟨other, List.mem_cons_of_mem _ hother, hc⟩

/-- Between pieces there are separators, so pieces are no more than characters and one. -/
theorem length_le_intercalate : pieces.length ≤ ([separator].intercalate pieces).length + 1 := by
  induction pieces with
  | nil => exact Nat.zero_le _
  | cons piece pieces ih =>
    cases pieces with
    | nil => exact Nat.le_add_left _ _
    | cons next others =>
      rw [List.intercalate_cons_cons, List.length_append, List.length_append, List.length_cons,
        List.length_singleton]
      omega

/-- There is one way to cut a text at every separator. -/
theorem splitOn_eq_iff : splitOn separator text = pieces ↔ IsPieces separator pieces text := by
  constructor
  · rintro rfl
    exact isPieces_splitOn separator text
  · rintro ⟨hne, hfree, rfl⟩
    rw [splitOn_eq_splitOn]
    exact List.splitOn_intercalate separator hfree hne

end

/-! ## The first separator -/

section
variable {separator : Char} {text before after : List Char}

theorem cutFirst?_append (h : separator ∉ before) (after : List Char) :
    cutFirst? separator (before ++ separator :: after) = some (before, after) := by
  induction before with
  | nil => rw [List.nil_append, cutFirst?, if_pos rfl]
  | cons c before ih =>
    rw [List.mem_cons, not_or] at h
    rw [List.cons_append, cutFirst?, if_neg (Ne.symm h.1), ih h.2]
    rfl

theorem cutFirst?_eq_some_iff : cutFirst? separator text = some (before, after) ↔
    text = before ++ separator :: after ∧ separator ∉ before := by
  constructor
  · exact cutFirst?_eq_some
  · rintro ⟨rfl, h⟩
    exact cutFirst?_append h after

theorem cutFirst?_eq_none_iff : cutFirst? separator text = none ↔ separator ∉ text := by
  induction text with
  | nil => simp [cutFirst?]
  | cons c rest ih =>
    rw [cutFirst?, List.mem_cons, not_or, ← ih]
    split
    · next hc => simp [hc]
    · next hc => simp [Ne.symm hc]

end

/-! ## Blank space around a text -/

/-- Nothing but blank space. -/
def IsBlank (text : List Char) : Prop := ∀ c ∈ text, isBlank c = true

/-- A text with blank space in front and behind, perhaps with none. -/
def Padded (inner text : List Char) : Prop :=
  ∃ front back, IsBlank front ∧ IsBlank back ∧ text = front ++ inner ++ back

/-- What is left of a text without the blank space around it. -/
structure IsTrimmed (text inner : List Char) : Prop where
  padded : Padded inner text
  head : ∀ c ∈ inner.head?, isBlank c = false
  last : ∀ c ∈ inner.getLast?, isBlank c = false

theorem padded_refl (text : List Char) : Padded text text :=
  ⟨[], [], nofun, nofun, by rw [List.nil_append, List.append_nil]⟩

section
variable {text inner : List Char}

theorem trimBlank_append_left {front : List Char} (h : IsBlank front) (text : List Char) :
    trimBlank (front ++ text) = trimBlank text := by
  induction front with
  | nil => rfl
  | cons c front ih =>
    obtain ⟨hc, hfront⟩ := List.forall_mem_cons.1 h
    exact (Naming.trim_cons hc).trans (ih hfront)

theorem rdropWhile_append_of_blank {back : List Char} (h : IsBlank back) (text : List Char) :
    (text ++ back).rdropWhile isBlank = text.rdropWhile isBlank := by
  rw [List.rdropWhile, List.reverse_append,
    List.dropWhile_append_of_pos fun c hc => h c (List.mem_reverse.1 hc)]
  rfl

theorem trimBlank_append_right {back : List Char} (h : IsBlank back) (text : List Char) :
    trimBlank (text ++ back) = trimBlank text := by
  unfold trimBlank
  rw [Naming.trim_eq, Naming.trim_eq, List.dropWhile_append]
  split
  · next hempty =>
    -- Blank space alone: the front end is taken off together with all that follows.
    rw [List.isEmpty_iff] at hempty
    rw [hempty, List.dropWhile_eq_nil_iff.2 h]
  · exact rdropWhile_append_of_blank h _

theorem trimBlank_padded (h : Padded inner text) : trimBlank text = trimBlank inner := by
  obtain ⟨front, back, hfront, hback, rfl⟩ := h
  rw [trimBlank_append_right hback, trimBlank_append_left hfront]

/-- A character that is no blank space is in a text if it is in what stands between. -/
theorem Padded.mem_iff (h : Padded inner text) {c : Char} (hc : isBlank c = false) :
    c ∈ text ↔ c ∈ inner := by
  obtain ⟨front, back, hfront, hback, rfl⟩ := h
  have hf : c ∉ front := fun hm => Bool.false_ne_true (hc ▸ hfront c hm)
  have hb : c ∉ back := fun hm => Bool.false_ne_true (hc ▸ hback c hm)
  rw [List.mem_append, List.mem_append]
  constructor
  · rintro ((hm | hm) | hm)
    · exact absurd hm hf
    · exact hm
    · exact absurd hm hb
  · exact fun hm => .inl (.inr hm)

theorem trimBlank_of_isBlank (h : IsBlank text) : trimBlank text = [] := by
  rw [← List.nil_append text]
  exact trimBlank_append_right h []

theorem isTrimmed_trimBlank (text : List Char) : IsTrimmed text (trimBlank text) where
  padded := by
    refine ⟨text.takeWhile isBlank, (text.dropWhile isBlank).rtakeWhile isBlank,
      fun _ h => List.mem_takeWhile_imp h, fun _ h => List.mem_rtakeWhile_imp h, ?_⟩
    rw [trimBlank, Naming.trim_eq, List.append_assoc, List.rdropWhile_append_rtakeWhile,
      List.takeWhile_append_dropWhile]
  head _ h := Naming.head_trim h
  last _ h := Naming.last_trim h

/-- There is one way to take the blank space off. -/
theorem trimBlank_eq_iff : trimBlank text = inner ↔ IsTrimmed text inner := by
  constructor
  · rintro rfl
    exact isTrimmed_trimBlank text
  · intro h
    rw [trimBlank_padded h.padded]
    exact Naming.trim_of_ends h.head h.last

end

end ToolBindings.Text
