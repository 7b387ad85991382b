/-!
# Cutting text at a separator

`splitOn` cuts at every separator, so `n` of them give `n + 1` pieces, empty ones
included; `cutFirst?` cuts at the first only.

* `intercalate_splitOn`: nothing is lost but the separators.
* `cutFirst?_eq_some`: the part in front holds no separator.
* `afterLast_append`, `afterLast_of_not_mem`: what the last piece is.
* `dropEnding?_eq_some_iff`: an ending is taken off exactly once.
-/
namespace ToolBindings.Text

/-- The pieces between the separators, in order. -/
def splitOn (separator : Char) : List Char → List (List Char)
  | [] => [[]]
  | c :: rest =>
    if c = separator then [] :: splitOn separator rest
    else match splitOn separator rest with
      | [] => [[c]]
      | piece :: pieces => (c :: piece) :: pieces

theorem splitOn_ne_nil (separator : Char) (text : List Char) : splitOn separator text ≠ [] := by
  cases text with
  | nil => simp [splitOn]
  | cons c rest =>
    rw [splitOn]
    split
    · simp
    · split <;> simp

/-- The pieces with the separator between them are the text. -/
theorem intercalate_splitOn (separator : Char) (text : List Char) :
    [separator].intercalate (splitOn separator text) = text := by
  induction text with
  | nil => rfl
  | cons c rest ih =>
    cases h : splitOn separator rest with
    | nil => exact absurd h (splitOn_ne_nil separator rest)
    | cons piece pieces =>
      rw [h] at ih
      rw [splitOn]
      split
      · next hc =>
        subst hc
        rw [h, List.intercalate_cons_cons, ih]; rfl
      · rw [h]
        cases pieces <;> simp_all [List.intercalate_cons_cons]

/-- What stands before and after the first separator; `none` if there is none. -/
def cutFirst? (separator : Char) : List Char → Option (List Char × List Char)
  | [] => none
  | c :: rest =>
    if c = separator then some ([], rest)
    else (cutFirst? separator rest).map fun (before, after) => (c :: before, after)

theorem cutFirst?_eq_some {separator : Char} {text before after : List Char}
    (h : cutFirst? separator text = some (before, after)) :
    text = before ++ separator :: after ∧ separator ∉ before := by
  induction text generalizing before with
  | nil => simp [cutFirst?] at h
  | cons c rest ih =>
    rw [cutFirst?] at h
    split at h
    · next hc => simp at h; obtain ⟨rfl, rfl⟩ := h; simp [hc]
    · next hc =>
      obtain ⟨⟨b, a⟩, hb, he⟩ := Option.map_eq_some_iff.1 h
      simp only [Prod.mk.injEq] at he
      obtain ⟨rfl, rfl⟩ := he
      obtain ⟨h1, h2⟩ := ih hb
      exact ⟨by rw [h1]; rfl, by simp [h2, Ne.symm hc]⟩

/-- What stands after the last separator; the whole text if there is none. -/
def afterLast (separator : Char) (text : List Char) : List Char :=
  (text.reverse.takeWhile (· ≠ separator)).reverse

theorem takeWhile_ne_append {separator : Char} {piece : List Char} (h : separator ∉ piece)
    (rest : List Char) : (piece ++ rest).takeWhile (· ≠ separator) =
      piece ++ rest.takeWhile (· ≠ separator) := by
  refine List.takeWhile_append_of_pos fun c hc => ?_
  have : c ≠ separator := fun he => h (he ▸ hc)
  simpa using this

theorem afterLast_append {separator : Char} (before : List Char) {after : List Char}
    (h : separator ∉ after) : afterLast separator (before ++ separator :: after) = after := by
  rw [afterLast, List.reverse_append, List.reverse_cons, List.append_assoc,
    takeWhile_ne_append (by simpa using h)]
  simp

theorem afterLast_of_not_mem {separator : Char} {text : List Char} (h : separator ∉ text) :
    afterLast separator text = text := by
  have := takeWhile_ne_append (mt List.mem_reverse.1 h) []
  rw [List.append_nil, List.takeWhile_nil, List.append_nil] at this
  rw [afterLast, this, List.reverse_reverse]

/-- The text without a given ending, if it has that ending. -/
def dropEnding? (ending text : List Char) : Option (List Char) :=
  if ending.isSuffixOf text then some (text.take (text.length - ending.length)) else none

theorem dropEnding?_eq_some_iff {ending text rest : List Char} :
    dropEnding? ending text = some rest ↔ text = rest ++ ending := by
  unfold dropEnding?
  split
  · next h =>
    obtain ⟨before, rfl⟩ := List.isSuffixOf_iff_suffix.1 h
    simp
  · next h =>
    refine ⟨fun he => by simp at he, fun he => ?_⟩
    exact absurd (List.isSuffixOf_iff_suffix.2 ⟨rest, he.symm⟩) h

end ToolBindings.Text
