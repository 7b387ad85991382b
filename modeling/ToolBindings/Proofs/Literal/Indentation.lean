import ToolBindings.Proofs.Literal.Meaning
import ToolBindings.Proofs.Literal.Unambiguous

/-!
# Indentation of literals

A literal that begins on a line of a deeper level is the same text with more blanks in front of
every line but the first. All line ends in it are those of dictionaries; a text has none, whatever
it says.

* `indented`: more blanks in front of the lines.
* `not_mem_quotedText`: what stands between quotes stays on its line.
* `written_add`: the text of a literal at a deeper level.
* `lineEnds`, `count_written`: the number of lines is known without a look at any text.
* `Nested`, `exists_written_of_nested`: what stands inside a literal is written as it is alone, only
  deeper.
* `Value.toLiteral_indented`: the same for the literals of values.
-/
namespace ToolBindings
namespace Literal
open Text

/-! ## Lines -/

/-- A text with further levels of indentation in front of all of its lines but the first. -/
def indented (levels : Nat) (text : List Char) : List Char :=
  text.flatMap fun c => if c = '\n' then c :: indentation levels else [c]

section
variable {levels : Nat} {text : List Char}

theorem indented_nil : indented levels [] = [] := rfl

theorem indented_append (levels : Nat) (front back : List Char) :
    indented levels (front ++ back) = indented levels front ++ indented levels back :=
  List.flatMap_append

theorem indented_cons_of_ne {c : Char} (h : c ≠ '\n') :
    indented levels (c :: text) = c :: indented levels text := by
  rw [indented, List.flatMap_cons, if_neg h]
  rfl

theorem indented_newline :
    indented levels ('\n' :: text) = '\n' :: (indentation levels ++ indented levels text) := rfl

/-- A text on one line stays as it is. -/
theorem indented_of_not_mem (h : '\n' ∉ text) : indented levels text = text := by
  induction text with
  | nil => rfl
  | cons c text ih =>
    rw [List.mem_cons, not_or] at h
    rw [indented_cons_of_ne (Ne.symm h.1), ih h.2]

theorem indentation_add {level : Int} (h : 0 ≤ level) (levels : Nat) :
    indentation (level + levels) = indentation levels ++ indentation level := by
  have hlength : 4 * (level + levels).toNat = 4 * (levels : Int).toNat + 4 * level.toNat := by omega
  rw [indentation, indentation, indentation, hlength, List.replicate_add]

end

/-! ## Parts on one line -/

theorem not_mem_indentation (level : Int) : '\n' ∉ indentation level :=
  fun h => absurd (List.eq_of_mem_replicate h) (by decide)

/-- A line end inside a text is written as an escape. -/
theorem not_mem_quotedText (text : List Char) : '\n' ∉ quotedText text := fun h =>
  absurd (Script.printable_of_mem_quotedText h) (by decide)

theorem not_mem_integerNumeral (n : Int) : '\n' ∉ integerNumeral n := by
  have hdigits (n : Nat) : '\n' ∉ decimalDigits n := fun h =>
    absurd (List.all_eq_true.1 (all_isDigit_decimalDigits n) _ h) (by decide)
  cases n with
  | ofNat n => exact hdigits n
  | negSucc n => exact List.not_mem_cons_of_ne_of_not_mem (by decide) (hdigits (n + 1))

theorem not_mem_written_bool (level : Int) (value : Bool) : '\n' ∉ written level (bool value) := by
  cases value <;> rw [written] <;> decide

/-! ## Deeper levels -/

mutual

/-- At a deeper level the lines of a literal are further in. -/
theorem written_add {level : Int} (h : 0 ≤ level) (levels : Nat) :
    ∀ literal, written (level + levels) literal = indented levels (written level literal)
  | null => by
    rw [written, written, indented_of_not_mem (by decide)]
  | bool value => by
    have hvalue : written (level + levels) (bool value) = written level (bool value) := by
      cases value <;> rw [written, written]
    rw [hvalue, indented_of_not_mem (not_mem_written_bool level value)]
  | int value => by
    rw [written, written, indented_of_not_mem (not_mem_integerNumeral value)]
  | text value => by
    rw [written, written, indented_of_not_mem (not_mem_quotedText value.toList)]
  | list items => by
    have hclose : '\n' ∉ [']'] := by decide
    rw [written, written, writtenItems_add h levels items, List.cons_append, List.cons_append,
      indented_cons_of_ne (by decide), indented_append, indented_of_not_mem hclose]
  | dict entries => by
    by_cases hne : entries = []
    · subst hne
      rw [written, written, indented_of_not_mem (by decide)]
    have hlevel : level + levels + 1 = level + 1 + levels := Int.add_right_comm _ _ _
    have hclose : '\n' ∉ indentation level ++ ['\x7d'] := fun hm =>
      (List.mem_append.1 hm).elim (not_mem_indentation level) (by decide)
    rw [written_dict _ hne, written_dict _ hne, indented_cons_of_ne (by decide), indented_newline,
      indented_append, ← List.append_assoc (indentation levels), hlevel,
      ← writtenEntries_add (Int.le_add_one h) levels entries, indentation_add h,
      indented_of_not_mem hclose, List.append_assoc, List.append_assoc]

theorem writtenItems_add {level : Int} (h : 0 ≤ level) (levels : Nat) :
    ∀ items, writtenItems (level + levels) items = indented levels (writtenItems level items)
  | [] => rfl
  | [item] => written_add h levels item
  | item :: next :: rest => by
    rw [writtenItems, writtenItems, written_add h levels item,
      writtenItems_add h levels (next :: rest), indented_append,
      indented_cons_of_ne (by decide), indented_cons_of_ne (by decide)]

/-- The blanks in front of an entry stand behind the line end before it. -/
theorem writtenEntry_add {level : Int} (h : 0 ≤ level) (levels : Nat) :
    ∀ entry, writtenEntry (level + levels) entry ++ indentation levels =
      indentation levels ++ indented levels (writtenEntry level entry)
  | (key, value) => by
    have hfront : '\n' ∉ indentation level ++ quotedText key.toList := fun hm =>
      (List.mem_append.1 hm).elim (not_mem_indentation level) (not_mem_quotedText key.toList)
    rw [writtenEntry, writtenEntry, written_add h levels value, indentation_add h, indented_append,
      indented_append, indented_of_not_mem hfront, indented_cons_of_ne (by decide),
      indented_cons_of_ne (by decide), indented_cons_of_ne (by decide), indented_newline,
      indented_nil]
    simp only [List.append_assoc, List.cons_append, List.nil_append, List.append_nil]

theorem writtenEntries_add {level : Int} (h : 0 ≤ level) (levels : Nat) :
    ∀ entries, writtenEntries (level + levels) entries ++ indentation levels =
      indentation levels ++ indented levels (writtenEntries level entries)
  | [] => by
    rw [writtenEntries, writtenEntries, indented_nil, List.nil_append, List.append_nil]
  | entry :: rest => by
    rw [writtenEntries, writtenEntries, indented_append, List.append_assoc,
      writtenEntries_add h levels rest, ← List.append_assoc, writtenEntry_add h levels entry,
      List.append_assoc]

end

/-! ## The number of lines -/

mutual

/-- The number of line ends in a literal: a dictionary ends the line on which it begins and then one
for each entry, unless it is empty. -/
def lineEnds : Literal → Nat
  | null | bool _ | int _ | text _ => 0
  | list items => lineEndsOfItems items
  | dict entries => (if entries.isEmpty then 0 else 1) + lineEndsOfEntries entries

def lineEndsOfItems : List Literal → Nat
  | [] => 0
  | item :: rest => lineEnds item + lineEndsOfItems rest

def lineEndsOfEntries : List (String × Literal) → Nat
  | [] => 0
  | (_, value) :: rest => lineEnds value + 1 + lineEndsOfEntries rest

end

mutual

/-- No line end comes from the inside of a text. -/
theorem count_written (level : Int) :
    ∀ literal, (written level literal).count '\n' = lineEnds literal
  | null => by rw [written, lineEnds]; decide
  | bool value => List.count_eq_zero.2 (not_mem_written_bool level value)
  | int value => by
    rw [written, lineEnds]
    exact List.count_eq_zero.2 (not_mem_integerNumeral value)
  | text value => by
    rw [written, lineEnds]
    exact List.count_eq_zero.2 (not_mem_quotedText value.toList)
  | list items => by
    rw [written, lineEnds, List.cons_append, List.count_cons_of_ne (by decide), List.count_append,
      count_writtenItems level items]
    rfl
  | dict entries => by
    by_cases hne : entries = []
    · subst hne
      rw [written, lineEnds, lineEndsOfEntries]
      decide
    · have hclose : (indentation level ++ ['\x7d']).count '\n' = 0 :=
        List.count_eq_zero.2 fun hm =>
          (List.mem_append.1 hm).elim (not_mem_indentation level) (by decide)
      rw [written_dict _ hne, lineEnds, List.count_cons_of_ne (by decide), List.count_cons_self,
        List.count_append, count_writtenEntries (level + 1) entries, hclose,
        if_neg (by rwa [List.isEmpty_iff])]
      omega

theorem count_writtenItems (level : Int) :
    ∀ items, (writtenItems level items).count '\n' = lineEndsOfItems items
  | [] => by rw [writtenItems, lineEndsOfItems]; rfl
  | [item] => by
    rw [writtenItems, lineEndsOfItems, lineEndsOfItems, count_written level item]
    rfl
  | item :: next :: rest => by
    rw [writtenItems, lineEndsOfItems, List.count_append, List.count_cons_of_ne (by decide),
      List.count_cons_of_ne (by decide), count_written level item,
      count_writtenItems level (next :: rest)]

theorem count_writtenEntries (level : Int) :
    ∀ entries, (writtenEntries level entries).count '\n' = lineEndsOfEntries entries
  | [] => by rw [writtenEntries, lineEndsOfEntries]; rfl
  | (key, value) :: rest => by
    have hkey : (indentation level ++ quotedText key.toList).count '\n' = 0 :=
      List.count_eq_zero.2 fun hm =>
        (List.mem_append.1 hm).elim (not_mem_indentation level) (not_mem_quotedText key.toList)
    have hend : [',', '\n'].count '\n' = 1 := by decide
    rw [writtenEntries, writtenEntry, lineEndsOfEntries, List.count_append, List.count_append,
      List.count_append, hkey, List.count_cons_of_ne (by decide), List.count_cons_of_ne (by decide),
      count_written level value, hend, count_writtenEntries level rest]
    omega

end

/-! ## Literals inside others -/

/-- A literal stands somewhere in another, so many dictionaries deep. -/
inductive Nested (part : Literal) : Nat → Literal → Prop where
  | whole : Nested part 0 part
  | item {items : List Literal} {item : Literal} {depth : Nat} (hm : item ∈ items)
    (h : Nested part depth item) : Nested part depth (.list items)
  | entry {entries : List (String × Literal)} {entry : String × Literal} {depth : Nat}
    (hm : entry ∈ entries) (h : Nested part depth entry.2) :
    Nested part (depth + 1) (.dict entries)

theorem exists_writtenItems (level : Int) {items : List Literal} {item : Literal}
    (h : item ∈ items) :
    ∃ front back, writtenItems level items = front ++ written level item ++ back := by
  induction items with
  | nil => cases h
  | cons other rest ih =>
    cases rest with
    | nil =>
      obtain rfl := List.mem_singleton.1 h
      exact ⟨[], [], by rw [writtenItems, List.nil_append, List.append_nil]⟩
    | cons next rest =>
      obtain rfl | hm := List.mem_cons.1 h
      · exact ⟨[], _, by rw [writtenItems, List.nil_append]⟩
      · obtain ⟨front, back, hrest⟩ := ih hm
        refine ⟨written level other ++ ',' :: ' ' :: front, back, ?_⟩
        rw [writtenItems, hrest]
        simp only [List.append_assoc, List.cons_append]

theorem exists_writtenEntries (level : Int) {entries : List (String × Literal)}
    {entry : String × Literal} (h : entry ∈ entries) :
    ∃ front back, writtenEntries level entries = front ++ written level entry.2 ++ back := by
  induction entries with
  | nil => cases h
  | cons other rest ih =>
    obtain rfl | hm := List.mem_cons.1 h
    · refine ⟨indentation level ++ quotedText entry.1.toList ++ [':', ' '],
        ',' :: '\n' :: writtenEntries level rest, ?_⟩
      rw [writtenEntries, writtenEntry]
      simp only [List.append_assoc, List.cons_append, List.nil_append]
    · obtain ⟨front, back, hrest⟩ := ih hm
      refine ⟨writtenEntry level other ++ front, back, ?_⟩
      rw [writtenEntries, hrest]
      simp only [List.append_assoc]

/-- What stands inside a literal is written on the level of the dictionaries around it. -/
theorem exists_written_of_nested {part literal : Literal} {depth : Nat} {level : Int}
    (h : Nested part depth literal) :
    ∃ front back, written level literal = front ++ written (level + depth) part ++ back := by
  induction h generalizing level with
  | whole =>
    have hlevel : level + (0 : Nat) = level := Int.add_zero level
    exact ⟨[], [], by rw [hlevel, List.nil_append, List.append_nil]⟩
  | item hm _ ih =>
    obtain ⟨front, back, hitems⟩ := exists_writtenItems level hm
    obtain ⟨front', back', hitem⟩ := @ih level
    refine ⟨'[' :: front ++ front', back' ++ back ++ [']'], ?_⟩
    rw [written, hitems, hitem]
    simp only [List.append_assoc, List.cons_append]
  | @entry entries entry depth hm _ ih =>
    have hlevel : level + (depth + 1 : Nat) = level + 1 + depth := by omega
    obtain ⟨front, back, hentries⟩ := exists_writtenEntries (level + 1) hm
    obtain ⟨front', back', hentry⟩ := @ih (level + 1)
    refine ⟨'\x7b' :: '\n' :: front ++ front', back' ++ back ++ indentation level ++ ['\x7d'], ?_⟩
    rw [written_dict _ (List.ne_nil_of_mem hm), hentries, hentry, hlevel]
    simp only [List.append_assoc, List.cons_append]

end Literal

/-- A value that can be written is written one level deeper as the same text, with one more level of
indentation behind each line end. The line ends are those of its dictionaries, whatever the texts
in it say. Each literal inside it, at any depth, is laid out as it is alone, with the indentation
of the place where it stands. -/
theorem Value.toLiteral_indented (value : Value) (level : Nat) :
    ∀ literal, value.toLiteral = .ok literal →
      (literal.render (level + 1)).toList = Literal.indented 1 (literal.render level).toList ∧
      (literal.render level).toList.count '\n' = literal.lineEnds ∧
      ∀ part depth, Literal.Nested part depth literal →
        ∃ front back, (literal.render level).toList =
          front ++ Literal.indented (level + depth) (part.render 0).toList ++ back := by
  intro literal _
  simp only [Literal.render, String.toList_ofList]
  refine ⟨Literal.written_add (Int.natCast_nonneg level) 1 literal,
    Literal.count_written level literal, fun part depth h => ?_⟩
  have hpart : Literal.written (level + depth) part =
      Literal.indented (level + depth) (Literal.written 0 part) := by
    rw [← Literal.written_add (Int.le_refl 0), Int.zero_add, Int.natCast_add]
  rw [← hpart]
  exact Literal.exists_written_of_nested h

/-- In the catalog a dictionary stands in a list, and a text has a line end in it. -/
theorem Value.toLiteral_indented_catalog :
    ∃ literal, catalog.toLiteral = .ok literal ∧
      (literal.render 3).toList = Literal.indented 1 (literal.render 2).toList ∧
      (literal.render 2).toList.count '\n' = 3 := by
  have hnumber : isConverted (-3) = true := by decide +kernel
  have hl : catalog.toLiteral = .ok (.dict [
      ("sizes", .list [.int (-3), .bool true, .null, .dict []]),
      ("na\"me", .list [.text "a\\b\x01\n", .text "é\x7f"])]) := by
    simp only [catalog, toLiteral, toLiterals, toEntries, Key.toText, hnumber, if_true]
    rfl
  obtain ⟨hdeeper, hcount, -⟩ := Value.toLiteral_indented catalog 2 _ hl
  exact ⟨_, hl, hdeeper, hcount.trans rfl⟩

end ToolBindings
