import Mathlib.Data.List.Basic
import ToolBindings.Proofs.Script.Lexing
import ToolBindings.Script.Escape

/-!
# Quoting a text as it is

A text that is put into a comment or between three quotes as it is can end them. Whether it does is
seen from the text alone.

* `withLineFeeds_append`: lines are told apart piece by piece.
* `StaysOnLine`, `dropLine_comment_iff`: when a comment ends with the line that it is put on.
* `hasFreeQuotes_iff`: free are three quotes behind an even number of backslashes.
* `readToken_quotes_iff`: without these a text ends with the quotes behind it.
* `unescaped?_append`, `unescaped?_dot`: what stands around a text changes none of its escapes.
-/
namespace ToolBindings.Script
open Text (isDigitOf)

/-! ## Line ends -/

section
variable {front back rest cs : List Char}

theorem withLineFeeds_cons {c : Char} (h : c ≠ '\r') :
    withLineFeeds (c :: rest) = c :: withLineFeeds rest := by
  rw [withLineFeeds]
  · rintro _ rfl
    exact absurd rfl h
  · rintro rfl
    exact absurd rfl h

theorem withLineFeeds_return (h : rest.head? ≠ some '\n') :
    withLineFeeds ('\r' :: rest) = '\n' :: withLineFeeds rest := by
  rw [withLineFeeds]
  rintro _ rfl
  exact h rfl

/-- What has no line ends of the other kinds stays as it is in front of anything. -/
theorem withLineFeeds_append_of_not_mem (h : '\r' ∉ front) (back : List Char) :
    withLineFeeds (front ++ back) = front ++ withLineFeeds back := by
  induction front with
  | nil => rfl
  | cons c rest ih =>
    rw [List.mem_cons, not_or] at h
    rw [List.cons_append, withLineFeeds_cons (Ne.symm h.1), ih h.2, List.cons_append]

/-- Two pieces are read one by one, unless a line end might be cut in two. -/
theorem withLineFeeds_append (h : back.head? ≠ some '\n') (front : List Char) :
    withLineFeeds (front ++ back) = withLineFeeds front ++ withLineFeeds back := by
  fun_induction withLineFeeds front with
  | case1 => rfl
  | case2 rest ih => rw [List.cons_append, List.cons_append, withLineFeeds, ih, List.cons_append]
  | case3 rest hrest ih =>
    rw [List.cons_append, withLineFeeds_return, ih, List.cons_append]
    cases rest with
    | nil => exact h
    | cons c rest =>
      rintro ⟨⟩
      exact hrest rest rfl
  | case4 c rest hfeed hreturn ih =>
    rw [List.cons_append, withLineFeeds_cons fun hc => hreturn hc, ih, List.cons_append]

/-- A line end separates what follows it from what stands before it. -/
theorem exists_withLineFeeds (front rest : List Char) :
    ∃ before, withLineFeeds (front ++ '\n' :: rest) = before ++ '\n' :: withLineFeeds rest := by
  fun_induction withLineFeeds front with
  | case1 => exact ⟨[], withLineFeeds_cons (by decide)⟩
  | case2 tail ih =>
    obtain ⟨before, hbefore⟩ := ih
    refine ⟨'\n' :: before, ?_⟩
    rw [List.cons_append, List.cons_append, withLineFeeds, hbefore, List.cons_append]
  | case3 tail htail ih =>
    obtain ⟨before, hbefore⟩ := ih
    cases tail with
    | nil => exact ⟨[], rfl⟩
    | cons c tail =>
      refine ⟨'\n' :: before, ?_⟩
      rw [List.cons_append, withLineFeeds_return, hbefore, List.cons_append]
      rintro ⟨⟩
      exact htail tail rfl
  | case4 c tail hfeed hreturn ih =>
    obtain ⟨before, hbefore⟩ := ih
    refine ⟨c :: before, ?_⟩
    rw [List.cons_append, withLineFeeds_cons fun hc => hreturn hc, hbefore, List.cons_append]

theorem getLast?_withLineFeeds (front : List Char) :
    (withLineFeeds (front ++ ['\n'])).getLast? = some '\n' := by
  obtain ⟨before, hbefore⟩ := exists_withLineFeeds front []
  rw [hbefore, List.getLast?_append_of_ne_nil _ (List.cons_ne_nil _ _)]
  rfl

theorem mem_withLineFeeds {c : Char} (h : c ∈ withLineFeeds cs) : c ∈ cs ∨ c = '\n' := by
  fun_induction withLineFeeds cs with
  | case1 => exact .inl h
  | case2 rest ih =>
    obtain rfl | h := List.mem_cons.1 h
    · exact .inr rfl
    · exact (ih h).imp_left fun h => List.mem_cons_of_mem _ (List.mem_cons_of_mem _ h)
  | case3 rest _ ih =>
    obtain rfl | h := List.mem_cons.1 h
    · exact .inr rfl
    · exact (ih h).imp_left (List.mem_cons_of_mem _)
  | case4 d rest _ _ ih =>
    obtain rfl | h := List.mem_cons.1 h
    · exact .inl List.mem_cons_self
    · exact (ih h).imp_left (List.mem_cons_of_mem _)

end

/-! ## Comments -/

/-- A text without line ends, but for a carriage return at its end, which is one with the line feed
behind it. -/
def StaysOnLine (cs : List Char) : Prop := '\n' ∉ cs ∧ '\r' ∉ cs.dropLast

instance (cs : List Char) : Decidable (StaysOnLine cs) := inferInstanceAs (Decidable (_ ∧ _))

section
variable {front cs rest : List Char}

theorem dropLine_append (h : '\n' ∉ front) (rest : List Char) :
    dropLine (front ++ rest) = dropLine rest := by
  unfold dropLine
  rw [List.dropWhile_append_of_pos]
  intro c hc
  rw [decide_eq_true_eq]
  rintro rfl
  exact h hc

theorem dropLine_newline (rest : List Char) : dropLine ('\n' :: rest) = '\n' :: rest := rfl

/-- A text with a line end of its own has a first one. -/
theorem exists_of_not_staysOnLine (h : ¬ StaysOnLine cs) :
    ∃ before c after, cs = before ++ c :: after ∧ '\n' ∉ before ∧ '\r' ∉ before ∧
      (c = '\n' ∨ c = '\r' ∧ after ≠ []) := by
  induction cs with
  | nil => exact absurd ⟨nofun, nofun⟩ h
  | cons c tail ih =>
    by_cases hfeed : c = '\n'
    · exact ⟨[], c, tail, rfl, nofun, nofun, .inl hfeed⟩
    by_cases htail : tail = []
    · subst htail
      exact absurd ⟨by simpa using Ne.symm hfeed, nofun⟩ h
    by_cases hreturn : c = '\r'
    · exact ⟨[], c, tail, rfl, nofun, nofun, .inr ⟨hreturn, htail⟩⟩
    obtain ⟨before, d, after, rfl, hb, hb', hd⟩ := ih fun hs => h ⟨by simp [Ne.symm hfeed, hs.1], by
      rw [List.dropLast_cons_of_ne_nil htail]
      simp [Ne.symm hreturn, hs.2]⟩
    exact ⟨c :: before, d, after, rfl, by simp [Ne.symm hfeed, hb],
      by simp [Ne.symm hreturn, hb'], hd⟩

/-- A line end of a text's own comes before the one behind the text. -/
theorem exists_withLineFeeds_break {c : Char} {after : List Char}
    (h : c = '\n' ∨ c = '\r' ∧ after ≠ []) (rest : List Char) :
    ∃ more, withLineFeeds (c :: (after ++ '\n' :: rest)) =
      '\n' :: (more ++ '\n' :: withLineFeeds rest) := by
  obtain ⟨more, hmore⟩ := exists_withLineFeeds after rest
  obtain rfl | ⟨rfl, hne⟩ := h
  · exact ⟨more, by rw [withLineFeeds_cons (by decide), hmore]⟩
  obtain ⟨d, tail, rfl⟩ := List.exists_cons_of_ne_nil hne
  by_cases hd : d = '\n'
  · subst hd
    obtain ⟨more, hmore⟩ := exists_withLineFeeds tail rest
    exact ⟨more, by rw [List.cons_append, withLineFeeds, hmore]⟩
  · exact ⟨more, by rw [withLineFeeds_return (by simpa using hd), hmore]⟩

/-- A comment ends with the line that it is put on exactly if what it says stays on a line. -/
theorem dropLine_comment_iff (hfeed : '\n' ∉ front) (hreturn : '\r' ∉ front)
    (cs rest : List Char) :
    dropLine (withLineFeeds (front ++ cs ++ '\n' :: rest)) = '\n' :: withLineFeeds rest ↔
      StaysOnLine cs := by
  rw [List.append_assoc, withLineFeeds_append_of_not_mem hreturn, dropLine_append hfeed]
  by_cases h : StaysOnLine cs
  · refine iff_of_true ?_ h
    by_cases hr : '\r' ∈ cs
    · have hlast : cs = cs.dropLast ++ ['\r'] := by
        have hsplit := List.dropLast_append_getLast (List.ne_nil_of_mem hr)
        rw [← hsplit, List.mem_append, List.mem_singleton] at hr
        rw [← hr.resolve_left h.2] at hsplit
        exact hsplit.symm
      have hfront : '\n' ∉ cs.dropLast := fun hm => h.1 (List.dropLast_subset cs hm)
      rw [hlast, List.append_assoc, withLineFeeds_append_of_not_mem h.2, dropLine_append hfront]
      rfl
    · rw [withLineFeeds_append_of_not_mem hr, dropLine_append h.1, withLineFeeds_cons (by decide)]
      rfl
  · refine iff_of_false ?_ h
    obtain ⟨before, c, after, rfl, hb, hb', hc⟩ := exists_of_not_staysOnLine h
    obtain ⟨more, hmore⟩ := exists_withLineFeeds_break hc rest
    rw [List.append_assoc, List.cons_append, withLineFeeds_append_of_not_mem hb',
      dropLine_append hb, hmore, dropLine_newline]
    -- The line end behind the text is still to come, so more is left than what is behind it.
    intro he
    have hlength := congrArg List.length (List.cons.inj he).2
    rw [List.length_append, List.length_cons] at hlength
    omega

/-- A line with nothing but a comment is skipped. -/
theorem tokensWithin_comment (hhead : cs.head? = some '#') (hdrop : dropLine cs = '\n' :: rest)
    (bound : Nat) :
    tokensWithin (bound + 1) [] [] true cs = tokensWithin bound [] [] true rest := by
  obtain ⟨tail, rfl⟩ := List.head?_eq_some_iff.1 hhead
  have hread : Margin.read {} 0 ('#' :: tail) = .ok ({}, '#' :: tail) := by
    rw [Margin.read]
    · rfl
    all_goals simp
  rw [tokensWithin, hread]
  simp only [ne_eq, not_true, if_false, hhead, true_or, if_true, hdrop]
  rfl

end

/-! ## Three quotes -/

/-- Whether a text has three quotes in a row, the first of which no backslash takes. -/
def hasFreeQuotes : List Char → Bool
  | '\\' :: _ :: rest => hasFreeQuotes rest
  | '"' :: '"' :: '"' :: _ => true
  | _ :: rest => hasFreeQuotes rest
  | [] => false

section
variable {c : Char} {front cs rest : List Char}

/-- How many backslashes a text ends with. -/
def closingBackslashes (cs : List Char) : Nat := (cs.reverse.takeWhile (· = '\\')).length

theorem closingBackslashes_cons (h : c ≠ '\\') (cs : List Char) :
    closingBackslashes (c :: cs) = closingBackslashes cs := by
  unfold closingBackslashes
  rw [List.reverse_cons, List.takeWhile_append]
  split
  · next hall => simp [hall, h]
  · rfl

/-- A backslash and what it takes are two backslashes or none. -/
theorem closingBackslashes_escape (c : Char) (cs : List Char) :
    closingBackslashes ('\\' :: c :: cs) % 2 = closingBackslashes cs % 2 := by
  unfold closingBackslashes
  rw [List.reverse_cons, List.reverse_cons, List.append_assoc, List.takeWhile_append]
  split
  · next hall =>
    by_cases hc : c = '\\' <;> simp [hall, hc]
  · rfl

/-- Free are three quotes behind an even number of backslashes. -/
theorem hasFreeQuotes_iff (cs : List Char) : hasFreeQuotes cs = true ↔
    ∃ before after, cs = before ++ '"' :: '"' :: '"' :: after ∧
      closingBackslashes before % 2 = 0 := by
  fun_induction hasFreeQuotes cs with
  | case1 c rest ih =>
    rw [ih]
    constructor
    · rintro ⟨before, after, rfl, heven⟩
      exact ⟨'\\' :: c :: before, after, rfl, (closingBackslashes_escape c before).trans heven⟩
    · rintro ⟨before, after, hcs, heven⟩
      obtain - | ⟨d, - | ⟨e, before⟩⟩ := before
      · cases hcs
      · obtain ⟨rfl, -⟩ := List.cons.inj hcs
        cases heven
      · cases hcs
        exact ⟨before, after, rfl, (closingBackslashes_escape c before).symm.trans heven⟩
  | case2 rest => exact iff_of_true rfl ⟨[], rest, rfl, rfl⟩
  | case3 c rest hescape hquotes ih =>
    have hbackslash : rest ≠ [] → c ≠ '\\' := by
      intro hne hc
      obtain ⟨d, tail, rfl⟩ := List.exists_cons_of_ne_nil hne
      exact hescape d tail hc rfl
    rw [ih]
    constructor
    · rintro ⟨before, after, rfl, heven⟩
      refine ⟨c :: before, after, rfl, ?_⟩
      rw [closingBackslashes_cons (hbackslash (by simp)), heven]
    · rintro ⟨before, after, hcs, heven⟩
      cases before with
      | nil =>
        obtain ⟨rfl, rfl⟩ := List.cons.inj hcs
        exact absurd rfl (hquotes after rfl)
      | cons d before =>
        obtain ⟨rfl, rfl⟩ := List.cons.inj hcs
        refine ⟨before, after, rfl, ?_⟩
        rwa [closingBackslashes_cons (hbackslash (by simp))] at heven
  | case4 =>
    refine iff_of_false Bool.false_ne_true ?_
    rintro ⟨before, after, hcs, -⟩
    cases before <;> cases hcs

theorem hasFreeQuotes_cons (h : c ≠ '\\') (h' : c ≠ '"') :
    hasFreeQuotes (c :: rest) = hasFreeQuotes rest := by
  rw [hasFreeQuotes]
  · rintro _ _ rfl
    exact absurd rfl h
  · rintro _ rfl
    exact absurd rfl h'

theorem hasFreeQuotes_append (h : ∀ c ∈ front, c ≠ '\\' ∧ c ≠ '"') (cs : List Char) :
    hasFreeQuotes (front ++ cs) = hasFreeQuotes cs := by
  induction front with
  | nil => rfl
  | cons c rest ih =>
    rw [List.forall_mem_cons] at h
    rw [List.cons_append, hasFreeQuotes_cons h.1.1 h.1.2, ih h.2]

theorem exists_of_withLineFeeds {others : List Char} (h : withLineFeeds cs = c :: others)
    (hc : c ≠ '\n') : ∃ rest, cs = c :: rest ∧ others = withLineFeeds rest := by
  cases cs with
  | nil => cases h
  | cons d rest =>
    by_cases hd : d = '\r'
    · subst hd
      by_cases hr : rest.head? = some '\n'
      · obtain ⟨tail, rfl⟩ := List.head?_eq_some_iff.1 hr
        exact absurd (List.cons.inj h).1.symm hc
      · rw [withLineFeeds_return hr] at h
        exact absurd (List.cons.inj h).1.symm hc
    · rw [withLineFeeds_cons hd] at h
      obtain ⟨rfl, rfl⟩ := List.cons.inj h
      exact ⟨rest, rfl, rfl⟩

/-- A backslash takes a line end as it takes any other character. -/
theorem hasFreeQuotes_return (ih : hasFreeQuotes (withLineFeeds rest) = hasFreeQuotes rest) :
    hasFreeQuotes ('\\' :: withLineFeeds ('\r' :: rest)) = hasFreeQuotes rest := by
  by_cases hr : rest.head? = some '\n'
  · obtain ⟨tail, rfl⟩ := List.head?_eq_some_iff.1 hr
    rw [withLineFeeds_cons (by decide), hasFreeQuotes_cons (by decide) (by decide)] at ih
    rw [withLineFeeds, hasFreeQuotes, ih]
  · rw [withLineFeeds_return hr, hasFreeQuotes, ih]

/-- Line ends are neither quotes nor backslashes. -/
theorem hasFreeQuotes_withLineFeeds (cs : List Char) :
    hasFreeQuotes (withLineFeeds cs) = hasFreeQuotes cs := by
  fun_induction hasFreeQuotes cs with
  | case1 c rest ih =>
    rw [withLineFeeds_cons (by decide)]
    by_cases hc : c = '\r'
    · rw [hc, hasFreeQuotes_return ih]
    · rw [withLineFeeds_cons hc, hasFreeQuotes, ih]
  | case2 rest =>
    rw [withLineFeeds_cons (by decide), withLineFeeds_cons (by decide),
      withLineFeeds_cons (by decide), hasFreeQuotes]
  | case3 c rest hescape hquotes ih =>
    by_cases hc : c = '\r'
    · subst hc
      by_cases hr : rest.head? = some '\n'
      · obtain ⟨tail, rfl⟩ := List.head?_eq_some_iff.1 hr
        rwa [withLineFeeds, ← withLineFeeds_cons (by decide)]
      · rw [withLineFeeds_return hr, hasFreeQuotes_cons (by decide) (by decide), ih]
    · rw [withLineFeeds_cons hc, hasFreeQuotes, ih]
      · intro d others hbackslash hothers
        cases rest with
        | nil => cases hothers
        | cons e tail => exact hescape e tail hbackslash rfl
      · intro tail hquote htail
        obtain ⟨others, rfl, hothers⟩ := exists_of_withLineFeeds htail (by decide)
        obtain ⟨others, rfl, -⟩ := exists_of_withLineFeeds hothers.symm (by decide)
        exact hquotes others hquote rfl
  | case4 => rfl

/-- What is neither a backslash nor the first of three quotes is taken as it is. -/
theorem readQuoted?_cons {d e : Char} {others : List Char} (h : c ≠ '\\')
    (h' : ¬ (c = '"' ∧ d = '"' ∧ e = '"')) :
    readQuoted? '"' true (c :: d :: e :: others) =
      (readQuoted? '"' true (d :: e :: others)).map fun (body, rest) => (c :: body, rest) := by
  rw [readQuoted?]
  · by_cases hc : c = '"'
    · simp only [hc, true_and] at h'
      simp only [hc, if_true, Bool.not_true, Bool.false_eq_true, if_false, if_neg h']
    · simp only [hc, if_false, Bool.not_true, Bool.false_eq_true, false_and]
  · nofun
  · rintro _ _ rfl
    exact absurd rfl h

/-- What has no free quotes ends with the quotes behind it, if it does not touch them. -/
theorem readQuoted?_of_hasFreeQuotes_eq_false (h : hasFreeQuotes cs = false) (rest : List Char) :
    readQuoted? '"' true (cs ++ '.' :: '"' :: '"' :: '"' :: rest) = some (cs ++ ['.'], rest) := by
  fun_induction hasFreeQuotes cs with
  | case1 c tail ih =>
    rw [List.cons_append, List.cons_append, readQuoted?, ih h]
    rfl
  | case2 tail => cases h
  | case3 c tail hescape hquotes ih =>
    specialize ih h
    obtain - | ⟨d, - | ⟨e, others⟩⟩ := tail
    · by_cases hc : c = '\\'
      · subst hc
        rfl
      · exact (readQuoted?_cons hc (by simp)).trans (congrArg _ ih)
    · exact (readQuoted?_cons (fun hc => hescape _ _ hc rfl) (by simp)).trans (congrArg _ ih)
    · refine (readQuoted?_cons (fun hc => hescape _ _ hc rfl) ?_).trans (congrArg _ ih)
      rintro ⟨hc, rfl, rfl⟩
      exact hquotes others hc rfl
  | case4 => rfl

/-- Free quotes end the text in which they are. -/
theorem exists_readQuoted?_of_hasFreeQuotes (h : hasFreeQuotes cs = true) (rest : List Char) :
    ∃ body behind, readQuoted? '"' true (cs ++ rest) = some (body, behind) ∧
      body.length < cs.length := by
  fun_induction hasFreeQuotes cs with
  | case1 c tail ih =>
    obtain ⟨body, behind, hread, hlength⟩ := ih h
    refine ⟨'\\' :: c :: body, behind, ?_, ?_⟩
    · rw [List.cons_append, List.cons_append, readQuoted?, hread]
      rfl
    · simpa using hlength
  | case2 tail => exact ⟨[], tail ++ rest, by simp [readQuoted?], by simp⟩
  | case3 c tail hescape hquotes ih =>
    obtain ⟨body, behind, hread, hlength⟩ := ih h
    refine ⟨c :: body, behind, ?_, by simpa using hlength⟩
    obtain - | ⟨d, - | ⟨e, others⟩⟩ := tail
    · cases h
    · exact absurd h (by simp [hasFreeQuotes])
    · refine (readQuoted?_cons (fun hc => hescape _ _ hc rfl) ?_).trans (congrArg _ hread)
      rintro ⟨hc, rfl, rfl⟩
      exact hquotes others hc rfl
  | case4 => cases h

/-- A text between three quotes that does not touch the last ones ends with them exactly if it has
no free quotes. -/
theorem readQuoted?_iff (cs rest : List Char) :
    readQuoted? '"' true (cs ++ '.' :: '"' :: '"' :: '"' :: rest) = some (cs ++ ['.'], rest) ↔
      hasFreeQuotes cs = false := by
  refine ⟨fun hread => ?_, fun h => readQuoted?_of_hasFreeQuotes_eq_false h rest⟩
  rw [← Bool.not_eq_true]
  intro h
  obtain ⟨body, behind, hshort, hlength⟩ :=
    exists_readQuoted?_of_hasFreeQuotes h ('.' :: '"' :: '"' :: '"' :: rest)
  rw [hread, Option.some.injEq, Prod.mk.injEq] at hshort
  rw [← hshort.1, List.length_append] at hlength
  omega

theorem textLetters?_quote (cs : List Char) : textLetters? ('"' :: cs) = some ({}, '"' :: cs) := by
  have hkind : textKind? [] = some {} := by decide
  unfold textLetters?
  simp [beginsWithQuote, hkind]

theorem readToken_quotes (brackets cs : List Char) :
    readToken brackets ('"' :: '"' :: '"' :: cs) =
      match readQuoted? '"' true cs with
      | some (body, rest) => (.text {} body, brackets, rest)
      | none => (.invalid .form true, brackets, []) := by
  unfold readToken
  rw [textLetters?_quote]
  simp only [readText?, and_self, if_true]
  cases readQuoted? '"' true cs <;> rfl

/-- A text between three quotes that does not touch the last ones is one token exactly if it has no
free quotes. -/
theorem readToken_quotes_iff (brackets cs rest : List Char) :
    readToken brackets ('"' :: '"' :: '"' :: (cs ++ '.' :: '"' :: '"' :: '"' :: rest)) =
        (.text {} (cs ++ ['.']), brackets, rest) ↔ hasFreeQuotes cs = false := by
  rw [← readQuoted?_iff cs rest, readToken_quotes]
  cases readQuoted? '"' true (cs ++ '.' :: '"' :: '"' :: '"' :: rest) with
  | none => exact iff_of_false nofun nofun
  | some found => simp [Prod.ext_iff]

end

/-! ## Escapes -/

section
variable {octets : Bool} {front cs rest : List Char}

theorem unescaped?_cons {c : Char} (h : c ≠ '\\') :
    unescaped? octets (c :: rest) = (unescaped? octets rest).map (c :: ·) := by
  rw [unescaped?, if_neg h]

theorem unescaped?_append (h : '\\' ∉ front) (cs : List Char) :
    unescaped? octets (front ++ cs) = (unescaped? octets cs).map (front ++ ·) := by
  induction front with
  | nil => exact Option.map_id'.symm
  | cons c rest ih =>
    rw [List.mem_cons, not_or] at h
    rw [List.cons_append, unescaped?_cons (Ne.symm h.1), ih h.2, Option.map_map]
    rfl

theorem take_append_dot {n : Nat} (h : cs.length < n) : (cs ++ ['.']).take n = cs ++ ['.'] :=
  List.take_of_length_le (by rw [List.length_append, List.length_singleton]; exact h)

/-- Digits are not continued by a dot. -/
theorem takeWhile_take_append {p : Char → Bool} (h : p '.' = false) (n : Nat) (cs : List Char) :
    ((cs ++ ['.']).take n).takeWhile p = (cs.take n).takeWhile p := by
  obtain hn | hn := Nat.lt_or_ge cs.length n
  · rw [take_append_dot hn, List.take_of_length_le (Nat.le_of_lt hn), List.takeWhile_append]
    split
    · next hall =>
      rw [List.takeWhile_cons_of_neg (by simp [h]), List.append_nil]
      exact ((List.takeWhile_sublist p).eq_of_length hall).symm
    · rfl
  · rw [List.take_append_of_le_length hn]

theorem hexEscape?_append (width : Nat) (cs : List Char) :
    hexEscape? width (cs ++ ['.']) = hexEscape? width cs := by
  unfold hexEscape?
  obtain hn | hn := Nat.lt_or_ge cs.length width
  · have hdot : (cs ++ ['.']).all (isDigitOf 16) = false := by
      rw [List.all_append, Bool.and_eq_false_iff]
      exact .inr (by decide)
    have hshort : cs.length ≠ width := Nat.ne_of_lt hn
    simp only [take_append_dot hn, hdot, List.take_of_length_le (Nat.le_of_lt hn), hshort,
      Bool.false_eq_true, false_and, and_false, if_false]
  · rw [List.take_append_of_le_length hn]

/-- A name ends with its brace, or it has none and is malformed. -/
theorem namedEscape?_append (cs : List Char) : namedEscape? (cs ++ ['.']) = namedEscape? cs := by
  cases cs with
  | nil => rfl
  | cons c rest =>
    by_cases hc : c = '\x7b'
    · subst hc
      have hdot : ['.'].takeWhile (· ≠ '\x7d') = ['.'] := by decide
      have hle : (rest.takeWhile (· ≠ '\x7d')).length ≤ rest.length :=
        (List.takeWhile_sublist _).length_le
      rw [List.cons_append]
      unfold namedEscape?
      simp only [List.takeWhile_append, hdot, List.length_append]
      split
      · next hall =>
        have hend : ¬ (rest.takeWhile (· ≠ '\x7d')).length < rest.length := by omega
        rw [if_neg hend, if_neg (by simp)]
      · next hall => rw [if_pos (by omega), if_pos (by omega)]
    · simp [namedEscape?, hc]

theorem escapeAt?_append (cs : List Char) :
    escapeAt? octets (cs ++ ['.']) = escapeAt? octets cs := by
  cases cs with
  | nil => cases octets <;> decide
  | cons c rest =>
    have hoctal : ((c :: rest ++ ['.']).take 3).takeWhile (isDigitOf 8) =
        ((c :: rest).take 3).takeWhile (isDigitOf 8) := takeWhile_take_append (by decide) 3 _
    rw [List.cons_append] at hoctal ⊢
    unfold escapeAt?
    simp only [hoctal, hexEscape?_append, namedEscape?_append]

section
variable {chars : List Char} {size : Nat}

theorem size_le_of_hexEscape? {width : Nat} (h : hexEscape? width cs = some (chars, size)) :
    size ≤ cs.length + 1 := by
  unfold hexEscape? at h
  simp only at h
  split at h
  · next hdigits =>
    cases h
    have := List.length_take_le' width cs
    omega
  · cases h

theorem size_le_of_namedEscape? (h : namedEscape? cs = some (chars, size)) :
    size ≤ cs.length + 1 := by
  unfold namedEscape? at h
  split at h
  · simp only at h
    split at h
    · next hlt =>
      obtain ⟨c, -, hc⟩ := Option.map_eq_some_iff.1 h
      cases hc
      rw [List.length_cons]
      omega
    · cases h
  · cases h

/-- No escape goes further than the text. -/
theorem size_le_of_escapeAt? (h : escapeAt? octets cs = some (chars, size)) :
    size ≤ cs.length := by
  cases cs with
  | nil => cases h; exact Nat.zero_le _
  | cons c rest =>
    unfold escapeAt? at h
    simp only at h
    split at h
    · cases h
      simp
    split at h
    · cases h
      exact ((List.takeWhile_sublist _).trans (List.take_sublist 3 _)).length_le
    split at h
    · exact size_le_of_hexEscape? h
    split at h
    · cases h
      exact Nat.zero_le _
    split at h
    · exact size_le_of_hexEscape? h
    split at h
    · exact size_le_of_hexEscape? h
    split at h
    · exact size_le_of_namedEscape? h
    · cases h
      exact Nat.zero_le _

end

theorem unescaped?_dot (cs : List Char) :
    unescaped? octets (cs ++ ['.']) = (unescaped? octets cs).map (· ++ ['.']) := by
  have hnil : unescaped? octets [] = some [] := by rw [unescaped?]
  fun_induction unescaped? octets cs with
  | case1 => rw [List.nil_append, unescaped?_cons (by decide), hnil]; rfl
  | case2 rest chars size hescape ih =>
    rw [List.cons_append, unescaped?, if_pos rfl, escapeAt?_append, hescape]
    simp only [List.drop_append_of_le_length (size_le_of_escapeAt? hescape), ih, Option.map_map]
    congr 1
    funext body
    exact (List.append_assoc _ _ _).symm
  | case3 rest hescape =>
    rw [List.cons_append, unescaped?, if_pos rfl, escapeAt?_append, hescape]
    rfl
  | case4 c rest hc ih =>
    rw [List.cons_append, unescaped?_cons hc, ih, Option.map_map, Option.map_map]
    rfl

end

end ToolBindings.Script
