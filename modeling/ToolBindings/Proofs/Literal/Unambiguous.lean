import ToolBindings.Literal.Basic
import ToolBindings.Proofs.Script.Numerals
import ToolBindings.Proofs.Script.Quoting

/-!
# A text begins with one literal

No two literals are written alike, not even at different levels and with different texts behind
them, as long as what is behind them does not continue a word.

* `begins_eq`: literals that begin alike are of the same kind.
* `written_append_inj`: the text of a literal determines the literal.
* `render_inj`: so it does for literals that stand alone.
-/
namespace ToolBindings.Literal
open Script (isWordPart quotedText_append_inj takeDigits_append)
open Text (decimalDigits integerNumeral)

/-- A text does not continue a word. -/
def Ends (rest : List Char) : Prop := ∀ c ∈ rest.head?, isWordPart c = false

theorem ends_cons {c : Char} (h : isWordPart c = false) (rest : List Char) : Ends (c :: rest) := by
  rintro d ⟨⟩
  exact h

/-! ## Numbers -/

section
variable {rest behind : List Char}

theorem decimalDigits_append_inj {m n : Nat} (hrest : Ends rest) (hbehind : Ends behind)
    (h : decimalDigits m ++ rest = decimalDigits n ++ behind) : m = n ∧ rest = behind := by
  have hdigits (n : Nat) := List.all_eq_true.1 (Text.all_isDigit_decimalDigits n)
  have htake := takeDigits_append (hdigits m) hrest
  rw [h, takeDigits_append (hdigits n) hbehind, Option.some.injEq, Prod.mk.injEq] at htake
  have hvalue := Script.numberOf?_decimalDigits m
  rw [← htake.1, Script.numberOf?_decimalDigits, Option.some.injEq] at hvalue
  exact ⟨hvalue.symm, htake.2.symm⟩

/-- Digits do not begin with a sign. -/
theorem exists_cons_decimalDigits (n : Nat) :
    ∃ c tail, decimalDigits n = c :: tail ∧ c.isDigit = true := by
  obtain ⟨c, tail, hn⟩ := List.exists_cons_of_ne_nil (Text.decimalDigits_ne_nil n)
  exact ⟨c, tail, hn, List.all_eq_true.1 (Text.all_isDigit_decimalDigits n) c
    (hn ▸ List.mem_cons_self)⟩

theorem decimalDigits_append_ne (n : Nat) (rest tail : List Char) :
    decimalDigits n ++ rest ≠ '-' :: tail := by
  obtain ⟨c, digits, hn, hc⟩ := exists_cons_decimalDigits n
  intro h
  rw [hn, List.cons_append, List.cons.injEq] at h
  rw [h.1] at hc
  cases hc

theorem integerNumeral_append_inj {m n : Int} (hrest : Ends rest) (hbehind : Ends behind)
    (h : integerNumeral m ++ rest = integerNumeral n ++ behind) : m = n ∧ rest = behind := by
  cases m with
  | ofNat m =>
    cases n with
    | ofNat n =>
      obtain ⟨rfl, htail⟩ := decimalDigits_append_inj hrest hbehind h
      exact ⟨rfl, htail⟩
    | negSucc n => exact absurd h (decimalDigits_append_ne m rest _)
  | negSucc m =>
    cases n with
    | ofNat n => exact absurd h.symm (decimalDigits_append_ne n behind _)
    | negSucc n =>
      simp only [integerNumeral, List.cons_append, List.cons.injEq, true_and] at h
      obtain ⟨heq, htail⟩ := decimalDigits_append_inj hrest hbehind h
      rw [Nat.succ.inj heq]
      exact ⟨rfl, htail⟩

end

/-! ## Beginnings -/

/-- With what literals of a kind begin; a sign counts as a digit. -/
def begins : Literal → Char
  | null => 'N'
  | bool true => 'T'
  | bool false => 'F'
  | int _ => '0'
  | text _ => '"'
  | list _ => '['
  | dict _ => '\x7b'

theorem exists_cons_written (level : Int) (literal : Literal) :
    ∃ c tail, written level literal = c :: tail ∧
      (if c.isDigit ∨ c = '-' then '0' else c) = literal.begins := by
  cases literal with
  | null => exact ⟨'N', _, by rw [written]; rfl, rfl⟩
  | bool value => cases value <;> exact ⟨_, _, by rw [written]; rfl, rfl⟩
  | int value =>
    cases value with
    | ofNat n =>
      obtain ⟨c, tail, hn, hc⟩ := exists_cons_decimalDigits n
      exact ⟨c, tail, by rw [written, integerNumeral, hn], if_pos (.inl hc)⟩
    | negSucc n => exact ⟨'-', _, by rw [written, integerNumeral], rfl⟩
  | text value => exact ⟨'"', _, by rw [written, quotedText]; rfl, rfl⟩
  | list items => exact ⟨'[', _, by rw [written]; rfl, rfl⟩
  | dict entries =>
    cases entries with
    | nil => exact ⟨'\x7b', _, by rw [written], rfl⟩
    | cons entry rest => exact ⟨'\x7b', _, by rw [written]; rfl, rfl⟩

theorem begins_eq {level level' : Int} {a b : Literal} {rest behind : List Char}
    (h : written level a ++ rest = written level' b ++ behind) : a.begins = b.begins := by
  obtain ⟨c, tail, ha, hc⟩ := exists_cons_written level a
  obtain ⟨d, tail', hb, hd⟩ := exists_cons_written level' b
  rw [ha, hb, List.cons_append, List.cons_append, List.cons.injEq] at h
  rw [← hc, ← hd, h.1]

/-- No literal begins as what ends a list. -/
theorem written_append_ne (level : Int) (literal : Literal) (rest tail : List Char) :
    written level literal ++ rest ≠ ']' :: tail := by
  obtain ⟨c, front, hwritten, hc⟩ := exists_cons_written level literal
  intro h
  rw [hwritten, List.cons_append, List.cons.injEq] at h
  rw [h.1] at hc
  cases literal with
  | bool value => cases value <;> simp [begins] at hc
  | _ => simp [begins] at hc

theorem indentation_append_inj {level level' : Int} {c d : Char} {rest behind : List Char}
    (hc : c ≠ ' ') (hd : d ≠ ' ')
    (h : indentation level ++ c :: rest = indentation level' ++ d :: behind) :
    c = d ∧ rest = behind := by
  have hdrop (level : Int) {c : Char} (hc : c ≠ ' ') (rest : List Char) :
      (indentation level ++ c :: rest).dropWhile (· == ' ') = c :: rest := by
    rw [List.dropWhile_append_of_pos, List.dropWhile_cons_of_neg]
    · rwa [beq_iff_eq]
    · intro e he
      rw [beq_iff_eq]
      exact List.eq_of_mem_replicate he
  have heq := congrArg (List.dropWhile (· == ' ')) h
  rw [hdrop level hc, hdrop level' hd, List.cons.injEq] at heq
  exact heq

/-! ## Whole literals -/

theorem written_dict (level : Int) {entries : List (String × Literal)} (h : entries ≠ []) :
    written level (dict entries) = '\x7b' :: '\n' ::
      (writtenEntries (level + 1) entries ++ (indentation level ++ ['\x7d'])) := by
  obtain ⟨entry, rest, rfl⟩ := List.exists_cons_of_ne_nil h
  rw [written, writtenEntries]
  simp only [List.cons_append, List.append_assoc]

theorem writtenEntries_cons (level : Int) (key : String) (value : Literal)
    (entries : List (String × Literal)) (rest : List Char) :
    writtenEntries level ((key, value) :: entries) ++ rest = indentation level ++
      (quotedText key.toList ++ ':' :: ' ' :: (written level value ++
        ',' :: '\n' :: (writtenEntries level entries ++ rest))) := by
  rw [writtenEntries, writtenEntry]
  simp only [List.append_assoc, List.cons_append, List.nil_append]

mutual

/-- The induction follows the first literal. -/
theorem written_append_inj {level level' : Int} :
    ∀ (a b : Literal) {rest behind : List Char}, Ends rest → Ends behind →
      written level a ++ rest = written level' b ++ behind → a = b ∧ rest = behind
  | null, b, rest, behind, _, _, h => by
    have hbegins := begins_eq h
    cases b with
    | null =>
      rw [written, written, List.append_cancel_left_eq] at h
      exact ⟨rfl, h⟩
    | bool value => cases value <;> simp [begins] at hbegins
    | _ => simp [begins] at hbegins
  | bool value, b, rest, behind, _, _, h => by
    have hbegins := begins_eq h
    cases b with
    | bool other =>
      cases value <;> cases other
      case false.false | true.true =>
        rw [written, written, List.append_cancel_left_eq] at h
        exact ⟨rfl, h⟩
      all_goals simp [begins] at hbegins
    | _ => cases value <;> simp [begins] at hbegins
  | int value, b, rest, behind, hrest, hbehind, h => by
    have hbegins := begins_eq h
    cases b with
    | int other =>
      rw [written, written] at h
      obtain ⟨rfl, htail⟩ := integerNumeral_append_inj hrest hbehind h
      exact ⟨rfl, htail⟩
    | bool value => cases value <;> simp [begins] at hbegins
    | _ => simp [begins] at hbegins
  | text value, b, rest, behind, _, _, h => by
    have hbegins := begins_eq h
    cases b with
    | text other =>
      rw [written, written] at h
      obtain ⟨heq, htail⟩ := quotedText_append_inj h
      rw [String.toList_inj.1 heq]
      exact ⟨rfl, htail⟩
    | bool value => cases value <;> simp [begins] at hbegins
    | _ => simp [begins] at hbegins
  | list items, b, rest, behind, _, _, h => by
    have hbegins := begins_eq h
    cases b with
    | list others =>
      simp only [written, List.cons_append, List.append_assoc, List.nil_append, List.cons.injEq,
        true_and] at h
      obtain ⟨rfl, htail⟩ := writtenItems_append_inj items others h
      exact ⟨rfl, htail⟩
    | bool value => cases value <;> simp [begins] at hbegins
    | _ => simp [begins] at hbegins
  | dict entries, b, rest, behind, _, _, h => by
    have hbegins := begins_eq h
    cases b with
    | dict others =>
      cases entries with
      | nil =>
        cases others with
        | nil =>
          rw [written, written, List.append_cancel_left_eq] at h
          exact ⟨rfl, h⟩
        | cons entry others =>
          rw [written, written] at h
          simp at h
      | cons entry entries =>
        cases others with
        | nil =>
          rw [written, written] at h
          simp at h
        | cons entry' others =>
          rw [written_dict _ (List.cons_ne_nil _ _), written_dict _ (List.cons_ne_nil _ _)] at h
          simp only [List.cons_append, List.append_assoc, List.nil_append, List.cons.injEq,
            true_and] at h
          obtain ⟨heq, htail⟩ := writtenEntries_append_inj (entry :: entries) (entry' :: others) h
          rw [heq]
          exact ⟨rfl, htail⟩
    | bool value => cases value <;> simp [begins] at hbegins
    | _ => simp [begins] at hbegins

theorem writtenItems_append_inj {level level' : Int} :
    ∀ (items others : List Literal) {rest behind : List Char},
      writtenItems level items ++ ']' :: rest = writtenItems level' others ++ ']' :: behind →
        items = others ∧ rest = behind
  | [], [], _, _, h => ⟨rfl, List.tail_eq_of_cons_eq h⟩
  | [], [other], _, _, h => absurd h.symm (written_append_ne level' other _ _)
  | [], other :: next :: others, _, _, h => by
    rw [writtenItems, writtenItems, List.append_assoc] at h
    exact absurd h.symm (written_append_ne level' other _ _)
  | [item], [], _, _, h => absurd h (written_append_ne level item _ _)
  | item :: next :: items, [], _, _, h => by
    rw [writtenItems, writtenItems, List.append_assoc] at h
    exact absurd h (written_append_ne level item _ _)
  | [item], [other], rest, behind, h => by
    obtain ⟨rfl, htail⟩ := written_append_inj item other (ends_cons rfl _) (ends_cons rfl _) h
    exact ⟨rfl, List.tail_eq_of_cons_eq htail⟩
  | [item], other :: next :: others, rest, behind, h => by
    rw [writtenItems, writtenItems, List.append_assoc] at h
    obtain ⟨-, htail⟩ := written_append_inj item other (ends_cons rfl _) (ends_cons rfl _) h
    exact absurd (List.head_eq_of_cons_eq htail) (by decide)
  | item :: next :: items, [other], rest, behind, h => by
    rw [writtenItems, writtenItems, List.append_assoc] at h
    obtain ⟨-, htail⟩ := written_append_inj item other (ends_cons rfl _) (ends_cons rfl _) h
    exact absurd (List.head_eq_of_cons_eq htail) (by decide)
  | item :: next :: items, other :: next' :: others, rest, behind, h => by
    rw [writtenItems, writtenItems, List.append_assoc, List.append_assoc] at h
    obtain ⟨rfl, htail⟩ := written_append_inj item other (ends_cons rfl _) (ends_cons rfl _) h
    have htail := List.tail_eq_of_cons_eq (List.tail_eq_of_cons_eq htail)
    obtain ⟨heq, htail⟩ := writtenItems_append_inj (next :: items) (next' :: others) htail
    rw [heq]
    exact ⟨rfl, htail⟩

theorem writtenEntries_append_inj {level level' inner inner' : Int} :
    ∀ (entries others : List (String × Literal)) {rest behind : List Char},
      writtenEntries inner entries ++ (indentation level ++ '\x7d' :: rest) =
          writtenEntries inner' others ++ (indentation level' ++ '\x7d' :: behind) →
        entries = others ∧ rest = behind
  | [], [], _, _, h => ⟨rfl, (indentation_append_inj (by decide) (by decide) h).2⟩
  | [], (key, value) :: others, _, _, h => by
    rw [writtenEntries_cons] at h
    exact absurd (indentation_append_inj (by decide) (by decide) h).1 (by decide)
  | (key, value) :: entries, [], _, _, h => by
    rw [writtenEntries_cons] at h
    exact absurd (indentation_append_inj (by decide) (by decide) h).1 (by decide)
  | (key, value) :: entries, (key', value') :: others, rest, behind, h => by
    rw [writtenEntries_cons, writtenEntries_cons] at h
    have hentry := (indentation_append_inj (by decide) (by decide) h).2
    obtain ⟨hkey, hvalue⟩ := quotedText_append_inj (congrArg ('"' :: ·) hentry)
    simp only [List.cons.injEq, true_and] at hvalue
    obtain ⟨rfl, htail⟩ :=
      written_append_inj value value' (ends_cons rfl _) (ends_cons rfl _) hvalue
    simp only [List.cons.injEq, true_and] at htail
    obtain ⟨rfl, hrest⟩ := writtenEntries_append_inj entries others htail
    rw [String.toList_inj.1 hkey]
    exact ⟨rfl, hrest⟩

end

/-- Literals with the same text, at whatever levels, are the same. -/
theorem render_inj {level level' : Int} {a b : Literal} (h : a.render level = b.render level') :
    a = b := by
  have htext := congrArg String.toList h
  rw [render, render, String.toList_ofList, String.toList_ofList] at htext
  have hends : Ends [] := nofun
  exact (written_append_inj a b hends hends (by rw [htext])).1

end ToolBindings.Literal
