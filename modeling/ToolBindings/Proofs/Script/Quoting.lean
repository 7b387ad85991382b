import ToolBindings.Literal.Basic
import ToolBindings.Proofs.Script.Quotation

/-!
# Quoted texts are read back

A text that is written between double quotes is one token, whatever characters it has and whatever
follows it but another quote; its escapes stand for the characters of the text.

* `readQuoted?_flatMap_escaped`, `readToken_quotedText`: the token goes up to the closing quote.
* `unescaped?_flatMap_escaped`: it stands for the text.
* `quotedText_append_inj`: no two texts are quoted alike.
* `printable_of_mem_quotedText`: control characters are escaped.
-/
namespace ToolBindings.Script
open Literal (escaped quotedText)

section
variable {rest : List Char}

theorem readQuoted?_plain {c : Char} (hb : c ≠ '\\') (hq : c ≠ '"') (hn : c ≠ '\n')
    (rest : List Char) : readQuoted? '"' false (c :: rest) =
      (readQuoted? '"' false rest).map fun found => (c :: found.1, found.2) := by
  rw [readQuoted?.eq_def]
  split
  · next h => cases h
  · next h => cases h; exact absurd rfl hb
  · next h => cases h; exact absurd rfl hb
  · next h => cases h; simp [hq, hn]

theorem readQuoted?_quote (rest : List Char) :
    readQuoted? '"' false ('"' :: rest) = some ([], rest) := by
  rw [readQuoted?.eq_def]
  simp

theorem readQuoted?_append {front : List Char}
    (h : ∀ c ∈ front, c ≠ '\\' ∧ c ≠ '"' ∧ c ≠ '\n') (rest : List Char) :
    readQuoted? '"' false (front ++ rest) =
      (readQuoted? '"' false rest).map fun found => (front ++ found.1, found.2) := by
  induction front with
  | nil => exact Option.map_id'.symm
  | cons c front ih =>
    obtain ⟨⟨hb, hq, hn⟩, hfront⟩ := List.forall_mem_cons.1 h
    rw [List.cons_append, readQuoted?_plain hb hq hn, ih hfront, Option.map_map]
    rfl

/-- The four digits of an escape. -/
theorem hexDigits_control : ∀ n < 0x20, (Text.hexDigits 4 n).length = 4 ∧
    (Text.hexDigits 4 n).all (fun c => c ≠ '\\' ∧ c ≠ '"' ∧ c ≠ '\n' ∧ 0x20 ≤ c.toNat) = true ∧
    hexEscape? 4 (Text.hexDigits 4 n) = some ([Char.ofNat n], 5) := by
  decide +kernel

/-- An escape is taken as a whole. -/
theorem readQuoted?_escaped (c : Char) (rest : List Char) :
    readQuoted? '"' false (escaped c ++ rest) =
      (readQuoted? '"' false rest).map fun found => (escaped c ++ found.1, found.2) := by
  have hletter (d : Char) (front : List Char)
      (h : ∀ c ∈ front, c ≠ '\\' ∧ c ≠ '"' ∧ c ≠ '\n') :
      readQuoted? '"' false ('\\' :: d :: front ++ rest) =
        (readQuoted? '"' false rest).map fun found =>
          ('\\' :: d :: front ++ found.1, found.2) := by
    rw [List.cons_append, List.cons_append, readQuoted?, readQuoted?_append h, Option.map_map]
    rfl
  have hnone : ∀ c ∈ [], c ≠ '\\' ∧ c ≠ '"' ∧ c ≠ '\n' := fun _ hc => absurd hc List.not_mem_nil
  unfold escaped
  split_ifs with hq hb hn hr ht hbs hff hcontrol
  · exact hletter _ [] hnone
  · exact hletter _ [] hnone
  · exact hletter _ [] hnone
  · exact hletter _ [] hnone
  · exact hletter _ [] hnone
  · exact hletter _ [] hnone
  · exact hletter _ [] hnone
  · have hplain := List.all_eq_true.1 (hexDigits_control _ hcontrol).2.1
    refine hletter _ _ fun d hd => ?_
    obtain ⟨hb, hq, hn, -⟩ := of_decide_eq_true (hplain d hd)
    exact ⟨hb, hq, hn⟩
  · exact readQuoted?_plain hb hq hn rest

/-- What stands between the quotes of a text is taken up to the closing quote. -/
theorem readQuoted?_flatMap_escaped (chars rest : List Char) :
    readQuoted? '"' false (chars.flatMap escaped ++ '"' :: rest) =
      some (chars.flatMap escaped, rest) := by
  induction chars with
  | nil => exact readQuoted?_quote rest
  | cons c chars ih =>
    rw [List.flatMap_cons, List.append_assoc, readQuoted?_escaped, ih]
    rfl

/-- An escape stands for what was escaped. -/
theorem unescaped?_escaped (c : Char) (rest : List Char) :
    unescaped? false (escaped c ++ rest) = (unescaped? false rest).map (c :: ·) := by
  have hletter (d : Char) (h : shortEscape? d = some [c]) :
      unescaped? false ('\\' :: d :: rest) = (unescaped? false rest).map (c :: ·) := by
    have hescape : escapeAt? false (d :: rest) = some ([c], 1) := by
      simp only [escapeAt?, h]
    rw [unescaped?, if_pos rfl, hescape]
    rfl
  have hnone : ∀ c ∈ [], c ≠ '\\' ∧ c ≠ '"' ∧ c ≠ '\n' := fun _ hc => absurd hc List.not_mem_nil
  unfold escaped
  split_ifs with hq hb hn hr ht hbs hff hcontrol
  · subst hq; exact hletter _ rfl
  · subst hb; exact hletter _ rfl
  · subst hn; exact hletter _ rfl
  · subst hr; exact hletter _ rfl
  · subst ht; exact hletter _ rfl
  · subst hbs; exact hletter _ rfl
  · subst hff; exact hletter _ rfl
  · obtain ⟨hlength, -, hvalue⟩ := hexDigits_control _ hcontrol
    rw [Char.ofNat_toNat] at hvalue
    generalize Text.hexDigits 4 c.toNat = digits at hlength hvalue
    have htake : (digits ++ rest).take 4 = digits.take 4 := by
      rw [← hlength, List.take_left, List.take_length]
    have hescape : escapeAt? false ('u' :: (digits ++ rest)) = some ([c], 5) := by
      show hexEscape? 4 (digits ++ rest) = _
      rw [← hvalue]
      unfold hexEscape?
      rw [htake]
    have hdrop : ('u' :: (digits ++ rest)).drop 5 = rest := by
      rw [List.drop_succ_cons, ← hlength, List.drop_left]
    rw [List.cons_append, List.cons_append, unescaped?, if_pos rfl, hescape]
    simp only [hdrop]
    rfl
  · exact unescaped?_cons hb

theorem unescaped?_flatMap_escaped (chars : List Char) :
    unescaped? false (chars.flatMap escaped) = some chars := by
  induction chars with
  | nil => rw [List.flatMap_nil, unescaped?]
  | cons c chars ih => rw [List.flatMap_cons, unescaped?_escaped, ih]; rfl

/-- Two quotes in a row do not open a text of three if no third one follows. -/
theorem readText?_flatMap_escaped (chars : List Char) (hrest : ∀ c ∈ rest.head?, c ≠ '"') :
    readText? {} '"' (chars.flatMap escaped ++ '"' :: rest) =
      some (.text {} (chars.flatMap escaped), rest) := by
  have hread := readQuoted?_flatMap_escaped chars rest
  have hfirst (d : Char) (others : List Char) (h : chars.flatMap escaped = d :: others) :
      d ≠ '"' := by
    rintro rfl
    rw [h, List.cons_append, readQuoted?_quote] at hread
    cases hread
  unfold readText?
  split
  · next d e others h =>
    have hquotes : ¬ (d = '"' ∧ e = '"') := by
      rintro ⟨rfl, rfl⟩
      cases hbody : chars.flatMap escaped with
      | nil =>
        rw [hbody, List.nil_append, List.cons.injEq] at h
        exact hrest '"' (by rw [h.2]; rfl) rfl
      | cons d body =>
        rw [hbody, List.cons_append, List.cons.injEq] at h
        exact hfirst d body hbody h.1
    rw [if_neg hquotes, ← h, hread]
    rfl
  · rw [hread]
    rfl

theorem readToken_quotedText (brackets chars : List Char) (hrest : ∀ c ∈ rest.head?, c ≠ '"') :
    readToken brackets (quotedText chars ++ rest) =
      (.text {} (chars.flatMap escaped), brackets, rest) := by
  have hchars : quotedText chars ++ rest = '"' :: (chars.flatMap escaped ++ '"' :: rest) := by
    rw [quotedText, List.cons_append, List.cons_append, List.append_assoc, List.singleton_append]
  unfold readToken
  rw [hchars, textLetters?_quote]
  simp only [readText?_flatMap_escaped chars hrest]

theorem quotedText_append_inj {chars others rest behind : List Char}
    (h : quotedText chars ++ rest = quotedText others ++ behind) :
    chars = others ∧ rest = behind := by
  simp only [quotedText, List.cons_append, List.append_assoc, List.cons.injEq, true_and,
    List.nil_append] at h
  have hread := readQuoted?_flatMap_escaped chars rest
  rw [h, readQuoted?_flatMap_escaped, Option.some.injEq, Prod.mk.injEq] at hread
  have hvalue := unescaped?_flatMap_escaped chars
  rw [← hread.1, unescaped?_flatMap_escaped, Option.some.injEq] at hvalue
  exact ⟨hvalue.symm, hread.2.symm⟩

theorem printable_of_mem_escaped {c d : Char} (h : d ∈ escaped c) : 0x20 ≤ d.toNat := by
  have hletter {l : Char} (hl : 0x20 ≤ l.toNat) (h : d ∈ ['\\', l]) : 0x20 ≤ d.toNat := by
    obtain rfl | hd := List.mem_cons.1 h
    · decide
    · rwa [List.mem_singleton.1 hd]
  unfold escaped at h
  split_ifs at h with hq hb hn hr ht hbs hff hcontrol
  · exact hletter (by decide) h
  · exact hletter (by decide) h
  · exact hletter (by decide) h
  · exact hletter (by decide) h
  · exact hletter (by decide) h
  · exact hletter (by decide) h
  · exact hletter (by decide) h
  · have hdigits := List.all_eq_true.1 (hexDigits_control _ hcontrol).2.1
    obtain rfl | hd := List.mem_cons.1 h
    · decide
    obtain rfl | hd := List.mem_cons.1 hd
    · decide
    exact (of_decide_eq_true (hdigits d hd)).2.2.2
  · rw [List.mem_singleton.1 h]
    exact Nat.le_of_not_lt hcontrol

theorem printable_of_mem_quotedText {chars : List Char} {d : Char} (h : d ∈ quotedText chars) :
    0x20 ≤ d.toNat := by
  rw [quotedText, List.mem_append, List.mem_cons, List.mem_singleton, List.mem_flatMap] at h
  obtain (rfl | ⟨c, -, hd⟩) | rfl := h
  · decide
  · exact printable_of_mem_escaped hd
  · decide

end

end ToolBindings.Script
