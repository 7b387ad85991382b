import ToolBindings.Proofs.Text.Pieces
import ToolBindings.Script.Lexer

/-!
# Tokens inside a line

What one step of the lexer takes off a text inside a line: a word, a sign, a blank. A path is
identifiers with dots between them; every identifier of it is a token of its own, and so is every
dot.

* `textLetters?_eq_none`: no word is one that says how a quote is meant, unless it goes up to one.
* `readToken_word`, `readToken_sign`: one token.
* `Cuts`: some steps of the lexer, one behind the other.
* `cuts_path`: the tokens of a path.
-/
namespace ToolBindings.Script
open Text (IsPieces isIdentifier isIdentifierPart isIdentifierStart isKeyword normalized)

/-! ## Characters of words -/

section
variable {c : Char} {word : List Char}

/-- What holds of the characters of ASCII is tried out. -/
theorem of_ascii {P : Char → Prop} (h : ∀ n < 0x80, P (Char.ofNat n)) (hc : c.toNat < 0x80) :
    P c := by
  have := h c.toNat hc
  rwa [Char.ofNat_toNat] at this

theorem isWordPart_of_isIdentifierPart (h : isIdentifierPart c = true) : isWordPart c = true := by
  by_cases hc : c.toNat < 0x80
  · revert h
    exact of_ascii (P := fun c => isIdentifierPart c = true → isWordPart c = true)
      (by decide +kernel) hc
  · unfold isWordPart
    rw [decide_eq_true (Nat.le_of_not_lt hc), Bool.or_true]

theorem isIdentifierPart_of_isIdentifierStart (h : isIdentifierStart c = true) :
    isIdentifierPart c = true := by
  unfold isIdentifierStart at h
  rw [isIdentifierPart, h, Bool.true_or]

theorem isDigit_of_isIdentifierStart (h : isIdentifierStart c = true) : c.isDigit = false := by
  by_cases hc : c.toNat < 0x80
  · revert h
    exact of_ascii (P := fun c => isIdentifierStart c = true → c.isDigit = false)
      (by decide +kernel) hc
  · rw [Char.isDigit, Bool.and_eq_false_iff]
    exact .inr (decide_eq_false fun hle => hc (Nat.lt_of_le_of_lt hle (by decide)))

/-- What the lexer takes for one word. -/
structure IsWord (word : List Char) : Prop where
  ne_nil : word ≠ []
  parts : ∀ c ∈ word, isWordPart c = true
  digit : beginsWithDigit word = false

theorem isWord_of_isIdentifier (h : isIdentifier word = true) : IsWord word := by
  cases word with
  | nil => cases h
  | cons c rest =>
    rw [isIdentifier, Bool.and_eq_true, List.all_eq_true] at h
    refine ⟨List.cons_ne_nil _ _, ?_, isDigit_of_isIdentifierStart h.1⟩
    rw [List.forall_mem_cons]
    exact ⟨isWordPart_of_isIdentifierPart (isIdentifierPart_of_isIdentifierStart h.1),
      fun d hd => isWordPart_of_isIdentifierPart (h.2 d hd)⟩

end

/-! ## Lines -/

/-- Lines that end in line feeds only stay as they are. -/
theorem withLineFeeds_of_not_mem {cs : List Char} (h : '\r' ∉ cs) : withLineFeeds cs = cs := by
  fun_induction withLineFeeds cs with
  | case1 => rfl
  | case2 rest => exact absurd List.mem_cons_self h
  | case3 rest => exact absurd List.mem_cons_self h
  | case4 c rest _ _ ih => rw [ih fun hm => h (List.mem_cons_of_mem _ hm)]

/-- A text that ends in a line feed is cut as it is. -/
theorem tokens_of_lines {text : String} (hreturn : '\r' ∉ text.toList)
    (hzero : '\x00' ∉ text.toList) (hend : text.toList.getLast? = some '\n') :
    tokens text = tokensWithin (2 * text.toList.length + 2) [] [] true text.toList := by
  unfold tokens
  simp only [withLineFeeds_of_not_mem hreturn, if_pos hend, if_neg hzero]

/-! ## Letters in front of quotes -/

/-- Whether a word ends in front of a character, and is no word about a quote. -/
def endsWord (c : Char) : Bool := !isWordPart c && !beginsWithQuote [c]

theorem isWordPart_of_toLower {c : Char} (h : isWordPart c.toLower = true) :
    isWordPart c = true := by
  unfold Char.toLower at h
  split at h
  · next hupper =>
    have halpha : c.isUpper = true := decide_eq_true hupper
    have hletter : c.isAlpha = true := Bool.or_eq_true_iff.2 (.inl halpha)
    simp [isWordPart, Char.isAlphanum, hletter]
  · exact h

/-- Only letters say how a quote behind them is meant. -/
theorem textKind?_eq_none {letters : List Char} {c : Char} (hmem : c ∈ letters)
    (h : isWordPart c = false) : textKind? letters = none := by
  have hkeys : ["", "u", "r", "b", "f", "br", "rb", "fr", "rf"].all
      (fun key => key.toList.all isWordPart) = true := by decide
  rw [textKind?, List.lookup_eq_none_iff]
  intro entry hentry
  have hkey : entry.1 ∈ ["", "u", "r", "b", "f", "br", "rb", "fr", "rf"] :=
    List.mem_map_of_mem (f := Prod.fst) hentry
  rw [bne_iff_ne]
  intro heq
  have hlower : c.toLower ∈ entry.1.toList := by
    rw [← heq, String.toList_ofList]
    exact List.mem_map_of_mem hmem
  have hpart := List.all_eq_true.1 (List.all_eq_true.1 hkeys _ hkey) _ hlower
  exact Bool.false_ne_true (h.symm.trans (isWordPart_of_toLower hpart))

section
variable {word rest : List Char}

/-- A word that does not go up to a quote says nothing about one. -/
theorem textLetters?_eq_none (hword : ∀ c ∈ word, isWordPart c = true)
    (hrest : ∀ c ∈ rest.head?, endsWord c = true) : textLetters? (word ++ rest) = none := by
  have hnone (n : Nat) : (if beginsWithQuote ((word ++ rest).drop n) then
      (textKind? ((word ++ rest).take n)).map (·, (word ++ rest).drop n) else none) = none := by
    obtain hlt | hle := Nat.lt_or_ge n word.length
    · have hdrop : (word ++ rest).drop n = word[n] :: (word.drop (n + 1) ++ rest) := by
        rw [List.drop_append_of_le_length (Nat.le_of_lt hlt), List.drop_eq_getElem_cons hlt]
        rfl
      have hquotes : ['"', '\x27'].all (!isWordPart ·) = true := by decide
      have hpart := hword word[n] (List.getElem_mem hlt)
      have hquote : beginsWithQuote [word[n]] = false := by
        rw [← Bool.not_eq_true]
        intro h
        have hmem : word[n] ∈ ['"', '\x27'] := by simpa [beginsWithQuote] using h
        have := List.all_eq_true.1 hquotes _ hmem
        rw [hpart] at this
        exact Bool.false_ne_true this
      rw [hdrop, if_neg]
      rw [show beginsWithQuote (word[n] :: (word.drop (n + 1) ++ rest)) = _ from hquote]
      exact Bool.false_ne_true
    · rw [List.drop_append, List.drop_eq_nil_of_le hle, List.nil_append]
      cases rest with
      | nil => rw [List.drop_nil]; rfl
      | cons c rest =>
        have hc := hrest c rfl
        rw [endsWord, Bool.and_eq_true, Bool.not_eq_true', Bool.not_eq_true'] at hc
        obtain heq | hgt := Nat.eq_or_lt_of_le hle
        · rw [← heq, Nat.sub_self, List.drop_zero, if_neg]
          rw [show beginsWithQuote (c :: rest) = _ from hc.2]
          exact Bool.false_ne_true
        · have hmem : c ∈ (word ++ c :: rest).take n := by
            have hn : n = word.length + (n - word.length - 1 + 1) := by omega
            rw [hn, List.take_length_add_append, List.take_succ_cons]
            exact List.mem_append_right _ List.mem_cons_self
          rw [textKind?_eq_none hmem hc.1, Option.map_none, ite_self]
  unfold textLetters?
  rw [List.findSome?_eq_none_iff]
  exact fun n _ => hnone n

end

/-! ## One token -/

section
variable {brackets word rest : List Char}

/-- Letter by letter a word is taken off as far as it goes. -/
theorem takeWhile_word (hword : ∀ c ∈ word, isWordPart c = true)
    (hrest : ∀ c ∈ rest.head?, endsWord c = true) :
    (word ++ rest).takeWhile isWordPart = word ∧ (word ++ rest).dropWhile isWordPart = rest := by
  rw [List.takeWhile_append_of_pos hword, List.dropWhile_append_of_pos hword]
  cases rest with
  | nil => exact ⟨List.append_nil _, rfl⟩
  | cons c rest =>
    have hc := hrest c rfl
    rw [endsWord, Bool.and_eq_true, Bool.not_eq_true'] at hc
    rw [List.takeWhile_cons_of_neg (by rw [hc.1]; exact Bool.false_ne_true),
      List.dropWhile_cons_of_neg (by rw [hc.1]; exact Bool.false_ne_true), List.append_nil]
    exact ⟨rfl, rfl⟩

theorem readToken_word (hword : IsWord word) (hrest : ∀ c ∈ rest.head?, endsWord c = true) :
    readToken brackets (word ++ rest) = (wordToken word, brackets, rest) := by
  obtain ⟨htake, hdrop⟩ := takeWhile_word hword.parts hrest
  have hletters := textLetters?_eq_none hword.parts hrest
  obtain ⟨c, others, rfl⟩ := List.exists_cons_of_ne_nil hword.ne_nil
  have hdot : c ≠ '.' := by
    rintro rfl
    exact Bool.false_ne_true (hword.parts '.' List.mem_cons_self)
  have hdigit : beginsWithDigit (c :: others ++ rest) = false := hword.digit
  unfold readToken
  rw [hletters]
  simp only [hdigit, htake, hdrop]
  simp [hdot]

/-- What is no part of a word, no quote and no beginning of a numeral is a sign. -/
theorem readToken_sign {c : Char} (hc : endsWord c = true)
    (hdot : c = '.' → beginsWithDigit rest = false) (hsign : signAt (c :: rest) = [c]) :
    readToken brackets (c :: rest) = match bracketsAfter? [c] brackets with
      | some after => (.symbol (String.ofList [c]), after, rest)
      | none => (.invalid .form true, brackets, []) := by
  have hends : ∀ d ∈ (c :: rest).head?, endsWord d = true := by
    rintro d ⟨⟩
    exact hc
  have hletters : textLetters? ([] ++ c :: rest) = none := textLetters?_eq_none nofun hends
  rw [List.nil_append] at hletters
  rw [endsWord, Bool.and_eq_true, Bool.not_eq_true'] at hc
  have hdigit : beginsWithDigit (c :: rest) = false := by
    rw [← Bool.not_eq_true]
    intro h
    have hpart : isWordPart c = true := by
      simp [isWordPart, Char.isAlphanum, show c.isDigit = true from h]
    exact Bool.false_ne_true (hc.1.symm.trans hpart)
  have hfraction : ¬ ((c :: rest).head? = some '.' ∧ beginsWithDigit ((c :: rest).drop 1)) := by
    rintro ⟨hhead, hrest⟩
    rw [List.head?_cons, Option.some.injEq] at hhead
    rw [List.drop_one, List.tail_cons, hdot hhead] at hrest
    exact Bool.false_ne_true hrest
  unfold readToken
  rw [hletters]
  simp only [hdigit, hfraction, Bool.false_eq_true, or_self, if_false]
  rw [List.takeWhile_cons_of_neg (by rw [hc.1]; exact Bool.false_ne_true)]
  simp only [ne_eq, not_true, if_false, hsign]
  rfl

end

/-! ## Inside a line -/

/-- The characters with which no token begins inside a line. -/
def lineMarks : List Char := [' ', '\t', '\x0c', '#', '\n', '\\']

/-- Some steps inside a line take tokens off a text, and leave some brackets open. -/
def Cuts (blocks : List Margin) (brackets after : List Char) (steps : Nat) (cs : List Char)
    (found : List Token) (rest : List Char) : Prop :=
  ∀ bound, tokensWithin (bound + steps) blocks brackets false cs =
    found ++ tokensWithin bound blocks after false rest

section
variable {blocks : List Margin} {brackets between after cs middle word rest : List Char}
  {found others : List Token} {steps more : Nat}

theorem Cuts.trans (h : Cuts blocks brackets between steps cs found middle)
    (hmore : Cuts blocks between after more middle others rest) :
    Cuts blocks brackets after (more + steps) cs (found ++ others) rest := by
  intro bound
  rw [← Nat.add_assoc, h, hmore, List.append_assoc]

/-- The margin of a line is the blanks in front of it. -/
theorem Margin.read_blanks {cs : List Char} (hcs : ∀ c ∈ cs.head?, c ∉ lineMarks) (blanks : Nat)
    (m : Margin) : Margin.read m 0 (List.replicate blanks ' ' ++ cs) =
      .ok (⟨m.column + blanks, m.narrow + blanks⟩, cs) := by
  induction blanks generalizing m with
  | zero =>
    cases cs with
    | nil => rfl
    | cons c cs =>
      have hc := hcs c rfl
      simp only [lineMarks, List.mem_cons, List.not_mem_nil, or_false, not_or] at hc
      rw [List.replicate_zero, List.nil_append, Margin.read]
      · rfl
      all_goals simp_all
  | succ blanks ih =>
    rw [List.replicate_succ, List.cons_append, Margin.read, ih, Margin.blank, Nat.add_right_comm,
      Nat.add_right_comm m.narrow]
    rfl

/-- A line that begins with a token, outside of blocks and brackets. -/
theorem tokensWithin_line {c : Char} (hc : c ∉ lineMarks) (bound : Nat) (cs : List Char) :
    tokensWithin (bound + 1) [] [] true (c :: cs) = tokensWithin bound [] [] false (c :: cs) := by
  have hread : Margin.read {} 0 (c :: cs) = .ok ({}, c :: cs) :=
    Margin.read_blanks (by rintro _ ⟨⟩; exact hc) 0 {}
  simp only [lineMarks, List.mem_cons, List.not_mem_nil, or_false, not_or] at hc
  have hmark : ¬ ((c :: cs).head? = some '#' ∨ (c :: cs).head? = some '\n') := by simp [hc]
  rw [tokensWithin, hread]
  simp only [ne_eq, not_true, if_false, hmark]
  rfl

theorem cuts_blank (rest : List Char) : Cuts blocks brackets brackets 1 (' ' :: rest) [] rest :=
  fun _ => rfl

/-- What is no mark of a line begins a token. -/
theorem tokensWithin_token {c : Char} (hc : c ∉ lineMarks) (bound : Nat) :
    tokensWithin (bound + 1) blocks brackets false (c :: cs) =
      match readToken brackets (c :: cs) with
      | (.invalid flaw lasting, _, _) => [.invalid flaw lasting]
      | (token, brackets, rest) => token :: tokensWithin bound blocks brackets false rest := by
  simp only [lineMarks, List.mem_cons, List.not_mem_nil, or_false, not_or] at hc
  rw [tokensWithin]
  -- What is left are the other beginnings.
  all_goals first | rfl | (intros; simp_all)

theorem cuts_token {c : Char} {token : Token} (hc : c ∉ lineMarks)
    (hread : readToken brackets (c :: cs) = (token, after, rest))
    (hvalid : ∀ flaw lasting, token ≠ .invalid flaw lasting) :
    Cuts blocks brackets after 1 (c :: cs) [token] rest := by
  intro bound
  rw [tokensWithin_token hc, hread]
  cases token with
  | invalid flaw lasting => exact absurd rfl (hvalid flaw lasting)
  | _ => rfl

theorem wordToken_of_keyword (h : isKeyword word = true) :
    wordToken word = .keyword (String.ofList word) :=
  if_pos h

theorem wordToken_of_name (hword : isIdentifier word = true) (h : isKeyword word = false) :
    wordToken word = .name (String.ofList (normalized word)) := by
  rw [wordToken, h, if_neg Bool.false_ne_true, if_pos hword]

theorem wordToken_ne_invalid (h : isIdentifier word = true) (flaw : Flaw) (lasting : Bool) :
    wordToken word ≠ .invalid flaw lasting := by
  unfold wordToken
  rw [if_pos h]
  split <;> nofun

theorem cuts_word (hword : isIdentifier word = true)
    (hrest : ∀ c ∈ rest.head?, endsWord c = true) :
    Cuts blocks brackets brackets 1 (word ++ rest) [wordToken word] rest := by
  have hisWord := isWord_of_isIdentifier hword
  have hread : readToken brackets (word ++ rest) = _ := readToken_word hisWord hrest
  obtain ⟨c, others, rfl⟩ := List.exists_cons_of_ne_nil hisWord.ne_nil
  refine cuts_token (fun hc => ?_) hread (wordToken_ne_invalid hword)
  have hmarks : lineMarks.all (!isWordPart ·) = true := by decide
  have hnot := List.all_eq_true.1 hmarks c hc
  rw [hisWord.parts c List.mem_cons_self] at hnot
  exact Bool.false_ne_true hnot

/-- A dot is a sign of its own unless a digit or another dot follows. -/
theorem cuts_dot (hrest : ∀ c ∈ rest.head?, c ≠ '.' ∧ c.isDigit = false) :
    Cuts blocks brackets brackets 1 ('.' :: rest) [.symbol "."] rest := by
  have hdigit : beginsWithDigit rest = false := by
    cases rest with
    | nil => rfl
    | cons c rest => exact (hrest c rfl).2
  have hsign : signAt ('.' :: rest) = ['.'] := by
    cases rest with
    | nil => rfl
    | cons c rest => simp [signAt, longSigns, List.isPrefixOf, Ne.symm (hrest c rfl).1]
  exact cuts_token (by decide) ((readToken_sign rfl (fun _ => hdigit) hsign).trans rfl) nofun

end

/-! ## A path -/

/-- The tokens of identifiers that each stand behind a dot. -/
def dottedTokens (parts : List (List Char)) : List Token :=
  parts.flatMap fun part => [.symbol ".", wordToken part]

def pathTokens (first : List Char) (others : List (List Char)) : List Token :=
  wordToken first :: dottedTokens others

/-- A path begins with neither a dot nor a digit. -/
theorem head_path {first rest : List Char} {others : List (List Char)}
    (hparts : ∀ part ∈ first :: others, isIdentifier part = true) :
    ∀ c ∈ (['.'].intercalate (first :: others) ++ rest).head?, c ≠ '.' ∧ c.isDigit = false := by
  have hfirst := isWord_of_isIdentifier (hparts first List.mem_cons_self)
  obtain ⟨c, tail, rfl⟩ := List.exists_cons_of_ne_nil hfirst.ne_nil
  have hhead : (['.'].intercalate ((c :: tail) :: others) ++ rest).head? = some c := by
    cases others with
    | nil => rw [List.intercalate_singleton]; rfl
    | cons next others => rw [List.intercalate_cons_cons]; rfl
  rw [hhead]
  rintro d ⟨⟩
  refine ⟨?_, hfirst.digit⟩
  rintro rfl
  exact Bool.false_ne_true (hfirst.parts '.' List.mem_cons_self)

/-- Between two identifiers stands a dot; the induction is on the identifiers behind the first. -/
theorem cuts_path {first rest : List Char} {others : List (List Char)}
    (hparts : ∀ part ∈ first :: others, isIdentifier part = true)
    (hrest : ∀ c ∈ rest.head?, endsWord c = true) :
    Cuts [] [] [] (2 * others.length + 1) (['.'].intercalate (first :: others) ++ rest)
      (pathTokens first others) rest := by
  induction others generalizing first with
  | nil =>
    rw [List.intercalate_singleton]
    exact cuts_word (hparts first List.mem_cons_self) hrest
  | cons next others ih =>
    obtain ⟨hfirst, hothers⟩ := List.forall_mem_cons.1 hparts
    rw [List.intercalate_cons_cons, List.append_assoc, List.append_assoc, List.singleton_append]
    have hword : ∀ c ∈ ('.' :: (['.'].intercalate (next :: others) ++ rest)).head?,
        endsWord c = true := by
      rintro c ⟨⟩
      rfl
    exact ((cuts_word hfirst hword).trans (cuts_dot (head_path hothers))).trans (ih hothers)

end ToolBindings.Script
