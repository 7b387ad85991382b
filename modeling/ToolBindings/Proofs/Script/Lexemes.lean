import ToolBindings.Proofs.Script.Numerals
import ToolBindings.Proofs.Script.Quoting

/-!
# Lines put together from lexemes

A line that is written piece by piece is read piece by piece, as long as no piece runs into the
next one. What a piece may run into is seen from the first character of the next.

* `Lexeme`, `Lexeme.stops`: the pieces, and in front of what they end.
* `cuts_lexeme`: one piece is one token.
* `Lexeme.fits`, `cuts_lexemes`: pieces one behind the other.
-/
namespace ToolBindings.Script
open Literal (escaped quotedText)
open Text (decimalDigits decimalLimit isIdentifier maxDecimalDigits)

/-! ## Pieces -/

/-- A piece of a line. -/
inductive Lexeme where
  | name (id : String)
  | keyword (word : String)
  | sign (c : Char)
  | arrow
  | text (value : String)
  /-- A text between three quotes; a dot ends it. -/
  | description (chars : List Char)
  | number (value : Nat)
  | gap
  /-- A line end inside brackets, with blanks behind it. -/
  | fold (blanks : Nat)
deriving DecidableEq

/-- What the first character of a text is. -/
inductive Head where
  /-- A part of a word other than a digit. -/
  | letter
  | digit
  | char (c : Char)
deriving DecidableEq

def Head.Admits (c : Char) : Head → Prop
  | letter => isWordPart c = true ∧ c.isDigit = false
  | digit => c.isDigit = true
  | char d => c = d

namespace Lexeme

def chars : Lexeme → List Char
  | name word | keyword word => word.toList
  | sign c => [c]
  | arrow => ['-', '>']
  | text value => quotedText value.toList
  | description chars => '"' :: '"' :: '"' :: (chars ++ ['.', '"', '"', '"'])
  | number value => decimalDigits value
  | gap => [' ']
  | fold blanks => '\n' :: List.replicate blanks ' '

def tokens : Lexeme → List Token
  | name id => [.name id]
  | keyword word => [.keyword word]
  | sign c => [.symbol (String.ofList [c])]
  | arrow => [.symbol "->"]
  | text value => [.text {} (value.toList.flatMap escaped)]
  | description chars => [.text {} (chars ++ ['.'])]
  | number value => [.number (.int value)]
  | gap | fold _ => []

/-- The signs of one character. -/
def signs : List Char := ['(', ')', '[', ']', '\x7b', '\x7d', ',', ':', '=', '-', '.']

/-- The signs with which a longer one begins, and what comes next in it. -/
def joinedSigns : List (Char × Char) :=
  [(':', '='), ('=', '='), ('-', '='), ('-', '>'), ('.', '.')]

/-- Whether a character means nothing but itself in a comment and between quotes. -/
def isInertChar (c : Char) : Bool := !(['"', '\\', '\n', '\r', '\x00'].contains c)

/-- What a piece has to be to be one token. -/
def IsValid : Lexeme → Prop
  | name id => isIdentifier id.toList = true ∧ wordToken id.toList = .name id
  | keyword word => isIdentifier word.toList = true ∧ wordToken word.toList = .keyword word
  | sign c => c ∈ signs
  | description chars => chars.all isInertChar = true
  | number value => value < decimalLimit maxDecimalDigits
  | arrow | text _ | gap | fold _ => True

def head : Lexeme → Head
  | name _ | keyword _ => .letter
  | number _ => .digit
  | sign c => .char c
  | arrow => .char '-'
  | text _ | description _ => .char '"'
  | gap => .char ' '
  | fold _ => .char '\n'

/-- Whether a piece ends in front of what begins so. -/
def stops : Lexeme → Head → Bool
  | name _, .char c | keyword _, .char c => endsWord c
  | number _, .char c => endsWord c && c != '.'
  | text _, .char c | description _, .char c => c != '"'
  | sign c, .char d => c != '.' && !joinedSigns.contains (c, d)
  | sign c, .digit => c != '.'
  | fold _, .char c => !lineMarks.contains c
  | name _, _ | keyword _, _ | number _, _ => false
  | _, _ => true

/-- The brackets that are open behind a piece. Lines go on only inside brackets. -/
def bracketsAfter? (brackets : List Char) : Lexeme → Option (List Char)
  | sign c => Script.bracketsAfter? [c] brackets
  | fold _ => if brackets.isEmpty then none else some brackets
  | _ => some brackets

/-- How many steps of the lexer a piece takes. -/
def steps : Lexeme → Nat
  | fold _ => 2
  | _ => 1

end Lexeme

/-! ## One piece -/

/-- A sign begins no longer one unless the next one joins it. -/
theorem signAt_of_mem {c : Char} (h : c ∈ Lexeme.signs) {rest : List Char}
    (hrest : ∀ d ∈ rest.head?, (c, d) ∉ Lexeme.joinedSigns) : signAt (c :: rest) = [c] := by
  have hlong : longSigns.all (fun sign => (sign.toList.head?.bind fun d =>
      sign.toList.tail.head?.map fun e =>
        decide (d ∈ Lexeme.signs → (d, e) ∈ Lexeme.joinedSigns)) = some true) = true := by decide
  have hnone : longSigns.find? (·.toList.isPrefixOf (c :: rest)) = none := by
    rw [List.find?_eq_none]
    intro sign hsign hprefix
    have hpair := of_decide_eq_true (List.all_eq_true.1 hlong sign hsign)
    obtain ⟨tail, htail⟩ := List.isPrefixOf_iff_prefix.1 hprefix
    obtain ⟨d, hd, hpair⟩ := Option.bind_eq_some_iff.1 hpair
    obtain ⟨e, he, hpair⟩ := Option.map_eq_some_iff.1 hpair
    rw [← List.cons_head?_tail hd, ← List.cons_head?_tail he, List.cons_append,
      List.cons_append, List.cons.injEq] at htail
    obtain ⟨rfl, rfl⟩ := htail
    exact hrest e rfl (of_decide_eq_true hpair h)
  unfold signAt
  rw [hnone]
  rfl

section
variable {blocks : List Margin} {brackets after rest : List Char} {head : Head}

theorem endsWord_eq_false {c : Char} (h : isWordPart c = true) : endsWord c = false := by
  rw [endsWord, h]
  rfl

theorem isWordPart_of_isDigit {c : Char} (h : c.isDigit = true) : isWordPart c = true := by
  simp [isWordPart, Char.isAlphanum, h]

/-- A sign is no mark of a line. -/
theorem not_mem_lineMarks {c : Char} (hc : c ∈ Lexeme.signs) : c ∉ lineMarks := by
  have hmarks : Lexeme.signs.all (· ∉ lineMarks) = true := by decide
  exact of_decide_eq_true (List.all_eq_true.1 hmarks c hc)

/-- Whether a sign is read depends on the brackets that are open. -/
theorem readToken_of_stops {c : Char} (hc : c ∈ Lexeme.signs)
    (hstops : (Lexeme.sign c).stops head = true) (hrest : ∀ d ∈ rest.head?, head.Admits d) :
    readToken brackets (c :: rest) = match bracketsAfter? [c] brackets with
      | some after => (.symbol (String.ofList [c]), after, rest)
      | none => (.invalid .form true, brackets, []) := by
  have hends : Lexeme.signs.all endsWord = true := by decide
  have hjoined : Lexeme.joinedSigns.all (fun pair => endsWord pair.2) = true := by decide
  refine readToken_sign (List.all_eq_true.1 hends c hc) ?_ (signAt_of_mem hc ?_)
  · rintro rfl
    cases rest with
    | nil => rfl
    | cons d rest =>
      cases head with
      | letter => exact (hrest d rfl).2
      | digit | char e => cases hstops
  · intro d hd hpair
    have hpart : isWordPart d ≠ true := fun hpart => by
      have hnext := List.all_eq_true.1 hjoined _ hpair
      rw [endsWord_eq_false hpart] at hnext
      exact Bool.false_ne_true hnext
    have hhead := hrest d hd
    cases head with
    | letter => exact hpart hhead.1
    | digit => exact hpart (isWordPart_of_isDigit hhead)
    | char e =>
      obtain rfl : d = e := hhead
      rw [Lexeme.stops, Bool.and_eq_true, Bool.not_eq_true', List.contains_eq_mem,
        decide_eq_false_iff_not] at hstops
      exact hstops.2 hpair

theorem cuts_sign {c : Char} (hc : c ∈ Lexeme.signs) (hstops : (Lexeme.sign c).stops head = true)
    (hrest : ∀ d ∈ rest.head?, head.Admits d)
    (hafter : bracketsAfter? [c] brackets = some after) :
    Cuts blocks brackets after 1 (c :: rest) [.symbol (String.ofList [c])] rest := by
  have hread : readToken brackets (c :: rest) = (.symbol (String.ofList [c]), after, rest) := by
    rw [readToken_of_stops hc hstops hrest, hafter]
  exact cuts_token (not_mem_lineMarks hc) hread nofun

/-- At a sign that does not fit the brackets that are open the tokens end. -/
theorem tokensWithin_sign {c : Char} (hc : c ∈ Lexeme.signs)
    (hstops : (Lexeme.sign c).stops head = true) (hrest : ∀ d ∈ rest.head?, head.Admits d)
    (hafter : bracketsAfter? [c] brackets = none) (bound : Nat) :
    tokensWithin (bound + 1) blocks brackets false (c :: rest) = [.invalid .form true] := by
  rw [tokensWithin_token (not_mem_lineMarks hc), readToken_of_stops hc hstops hrest, hafter]

/-- A line end inside brackets takes one step, and the blanks behind it another. -/
theorem cuts_fold (blanks : Nat) (hbrackets : brackets ≠ [])
    (hrest : ∀ c ∈ rest.head?, c ∉ lineMarks) :
    Cuts blocks brackets brackets 2 ('\n' :: List.replicate blanks ' ' ++ rest) [] rest := by
  intro bound
  rw [List.cons_append, tokensWithin, if_neg hbrackets, tokensWithin,
    Margin.read_blanks hrest blanks]
  simp only [ne_eq, hbrackets, not_false_eq_true, if_true]
  rfl

theorem cuts_quotedText (chars : List Char) (hrest : ∀ c ∈ rest.head?, c ≠ '"') :
    Cuts blocks brackets brackets 1 (quotedText chars ++ rest)
      [.text {} (chars.flatMap escaped)] rest :=
  cuts_token (c := '"') (by decide) (readToken_quotedText brackets chars hrest) nofun

theorem isInertChar_iff {c : Char} : Lexeme.isInertChar c = true ↔
    c ≠ '"' ∧ c ≠ '\\' ∧ c ≠ '\n' ∧ c ≠ '\r' ∧ c ≠ '\x00' := by
  simp [Lexeme.isInertChar]

theorem hasFreeQuotes_of_isInertChar {chars : List Char}
    (h : chars.all Lexeme.isInertChar = true) : hasFreeQuotes chars = false := by
  have happend := hasFreeQuotes_append (fun c hc =>
    have hinert := isInertChar_iff.1 (List.all_eq_true.1 h c hc)
    ⟨hinert.2.1, hinert.1⟩) []
  rwa [List.append_nil] at happend

theorem cuts_description {chars : List Char} (h : chars.all Lexeme.isInertChar = true)
    (rest : List Char) :
    Cuts blocks brackets brackets 1 ((Lexeme.description chars).chars ++ rest)
      [.text {} (chars ++ ['.'])] rest := by
  have hchars : (Lexeme.description chars).chars ++ rest =
      '"' :: '"' :: '"' :: (chars ++ '.' :: '"' :: '"' :: '"' :: rest) := by
    simp [Lexeme.chars]
  rw [hchars]
  exact cuts_token (by decide)
    ((readToken_quotes_iff brackets chars rest).2 (hasFreeQuotes_of_isInertChar h)) nofun

theorem cuts_decimalDigits {n : Nat} (h : n < decimalLimit maxDecimalDigits)
    (hrest : ∀ c ∈ rest.head?, endsWord c = true ∧ c ≠ '.') :
    Cuts blocks brackets brackets 1 (decimalDigits n ++ rest) [.number (.int n)] rest := by
  have hread := readToken_decimalDigits brackets h hrest
  obtain ⟨c, others, hn⟩ := List.exists_cons_of_ne_nil (Text.decimalDigits_ne_nil n)
  have hmarks : lineMarks.all (!isWordPart ·) = true := by decide
  have hc := List.all_eq_true.1 (Text.all_isDigit_decimalDigits n) c (hn ▸ List.mem_cons_self)
  rw [hn] at hread ⊢
  refine cuts_token (fun hmem => ?_) hread nofun
  have hnot := List.all_eq_true.1 hmarks c hmem
  rw [isWordPart_of_isDigit hc] at hnot
  exact Bool.false_ne_true hnot

/-- The signs of two characters that modules have. -/
theorem cuts_arrow (rest : List Char) :
    Cuts blocks brackets brackets 1 ('-' :: '>' :: rest) [.symbol "->"] rest := by
  have hends : ∀ d ∈ ('-' :: '>' :: rest).head?, endsWord d = true := by
    rintro d ⟨⟩
    rfl
  have hletters : textLetters? ([] ++ '-' :: '>' :: rest) = none := textLetters?_eq_none nofun hends
  refine cuts_token (by decide) ?_ nofun
  unfold readToken
  rw [List.nil_append] at hletters
  rw [hletters]
  rfl

/-- What is no part of a word is not at the front of a text that begins with a word. -/
theorem Head.Admits.not_mem {marks : List Char} {c : Char} (h : head.Admits c)
    (hmarks : marks.all (!isWordPart ·) = true) (hhead : ∀ d, head = .char d → d ∉ marks) :
    c ∉ marks := by
  intro hc
  have hpart := List.all_eq_true.1 hmarks c hc
  rw [Bool.not_eq_true'] at hpart
  cases head with
  | letter => exact Bool.false_ne_true (hpart.symm.trans h.1)
  | digit => exact Bool.false_ne_true (hpart.symm.trans (isWordPart_of_isDigit h))
  | char d =>
    obtain rfl : c = d := h
    exact hhead c rfl hc

/-- A piece is one token, or none, in front of what it stops at. -/
theorem cuts_lexeme {lexeme : Lexeme} (hvalid : lexeme.IsValid)
    (hstops : lexeme.stops head = true) (hrest : ∀ c ∈ rest.head?, head.Admits c)
    (hafter : lexeme.bracketsAfter? brackets = some after) :
    Cuts blocks brackets after lexeme.steps (lexeme.chars ++ rest) lexeme.tokens rest := by
  cases lexeme with
  | sign c => exact cuts_sign hvalid hstops hrest hafter
  | fold blanks =>
    rw [Lexeme.bracketsAfter?] at hafter
    split at hafter
    · cases hafter
    · next hbrackets =>
      cases hafter
      refine cuts_fold blanks (by rintro rfl; exact hbrackets rfl) fun c hc => ?_
      refine (hrest c hc).not_mem (by decide) ?_
      rintro d rfl hd
      rw [Lexeme.stops, Bool.not_eq_true', List.contains_eq_mem, decide_eq_false_iff_not] at hstops
      exact hstops hd
  | name id =>
    cases hafter
    have hword : ∀ c ∈ rest.head?, endsWord c = true := by
      cases head with
      | letter | digit => cases hstops
      | char d => exact fun c hc => (hrest c hc : c = d) ▸ hstops
    have hcuts := @cuts_word blocks brackets id.toList rest hvalid.1 hword
    rwa [hvalid.2] at hcuts
  | keyword word =>
    cases hafter
    have hword : ∀ c ∈ rest.head?, endsWord c = true := by
      cases head with
      | letter | digit => cases hstops
      | char d => exact fun c hc => (hrest c hc : c = d) ▸ hstops
    have hcuts := @cuts_word blocks brackets word.toList rest hvalid.1 hword
    rwa [hvalid.2] at hcuts
  | arrow =>
    cases hafter
    exact cuts_arrow rest
  | text value =>
    cases hafter
    refine cuts_quotedText value.toList fun c hc => ?_
    have hnot : c ∉ ['"'] := (hrest c hc).not_mem (by decide) (by
      rintro d rfl
      simpa [Lexeme.stops] using hstops)
    simpa using hnot
  | description chars =>
    cases hafter
    exact cuts_description hvalid rest
  | number value =>
    cases hafter
    refine cuts_decimalDigits hvalid fun c hc => ?_
    cases head with
    | letter | digit => cases hstops
    | char d =>
      obtain rfl : c = d := hrest c hc
      simpa [Lexeme.stops] using hstops
  | gap =>
    cases hafter
    exact cuts_blank rest

end

/-! ## Pieces one behind the other -/

namespace Lexeme

/-- With what pieces begin that stand in front of something. -/
def headOf (lexemes : List Lexeme) (last : Head) : Head := (lexemes.head?.map head).getD last

/-- Whether each piece ends in front of the next one, and the last one in front of something. -/
def fits : List Lexeme → Head → Bool
  | [], _ => true
  | lexeme :: rest, last => lexeme.stops (headOf rest last) && fits rest last

/-- The brackets that are open behind pieces. -/
def bracketsThrough? (brackets : List Char) (lexemes : List Lexeme) : Option (List Char) :=
  lexemes.foldlM bracketsAfter? brackets

section
variable {front back : List Lexeme} {last : Head} {brackets : List Char}

theorem headOf_append : headOf (front ++ back) last = headOf front (headOf back last) := by
  cases front <;> rfl

theorem fits_append :
    fits (front ++ back) last = (fits front (headOf back last) && fits back last) := by
  induction front with
  | nil => rfl
  | cons lexeme front ih => rw [List.cons_append, fits, fits, ih, headOf_append, Bool.and_assoc]

theorem bracketsThrough?_append : bracketsThrough? brackets (front ++ back) =
    (bracketsThrough? brackets front).bind fun between => bracketsThrough? between back :=
  List.foldlM_append

end

theorem exists_cons_chars {lexeme : Lexeme} (hvalid : lexeme.IsValid) :
    ∃ c tail, lexeme.chars = c :: tail ∧ lexeme.head.Admits c := by
  have hword {word : List Char} (h : isIdentifier word = true) :
      ∃ c tail, word = c :: tail ∧ Head.letter.Admits c := by
    have hisWord := isWord_of_isIdentifier h
    obtain ⟨c, tail, rfl⟩ := List.exists_cons_of_ne_nil hisWord.ne_nil
    exact ⟨c, tail, rfl, hisWord.parts c List.mem_cons_self, hisWord.digit⟩
  cases lexeme with
  | name id => exact hword hvalid.1
  | keyword word => exact hword hvalid.1
  | number value =>
    obtain ⟨c, tail, hn⟩ := List.exists_cons_of_ne_nil (Text.decimalDigits_ne_nil value)
    exact ⟨c, tail, hn, List.all_eq_true.1 (Text.all_isDigit_decimalDigits value) c
      (hn ▸ List.mem_cons_self)⟩
  | sign c => exact ⟨c, [], rfl, rfl⟩
  | arrow => exact ⟨'-', _, rfl, rfl⟩
  | text value => exact ⟨'"', _, rfl, rfl⟩
  | description chars => exact ⟨'"', _, rfl, rfl⟩
  | gap => exact ⟨' ', _, rfl, rfl⟩
  | fold blanks => exact ⟨'\n', _, rfl, rfl⟩

end Lexeme

def lexemeChars (lexemes : List Lexeme) : List Char := lexemes.flatMap Lexeme.chars

def lexemeTokens (lexemes : List Lexeme) : List Token := lexemes.flatMap Lexeme.tokens

/-- How many steps of the lexer pieces take. -/
def lexemeSteps : List Lexeme → Nat
  | [] => 0
  | lexeme :: rest => lexeme.steps + lexemeSteps rest

section
variable {blocks : List Margin} {brackets after rest : List Char} {last : Head}
  {lexemes : List Lexeme}

theorem head_lexemeChars (hvalid : ∀ lexeme ∈ lexemes, lexeme.IsValid)
    (hrest : ∀ c ∈ rest.head?, last.Admits c) :
    ∀ c ∈ (lexemeChars lexemes ++ rest).head?, (Lexeme.headOf lexemes last).Admits c := by
  cases lexemes with
  | nil => exact hrest
  | cons lexeme lexemes =>
    obtain ⟨d, tail, hchars, hd⟩ := Lexeme.exists_cons_chars (hvalid lexeme List.mem_cons_self)
    have hhead : (lexemeChars (lexeme :: lexemes) ++ rest).head? = some d := by
      rw [lexemeChars, List.flatMap_cons, hchars]
      rfl
    rw [hhead]
    rintro c ⟨⟩
    exact hd

/-- Pieces that do not run into one another are read one by one. -/
theorem cuts_lexemes (hvalid : ∀ lexeme ∈ lexemes, lexeme.IsValid)
    (hfits : Lexeme.fits lexemes last = true) (hrest : ∀ c ∈ rest.head?, last.Admits c)
    (hafter : Lexeme.bracketsThrough? brackets lexemes = some after) :
    Cuts blocks brackets after (lexemeSteps lexemes) (lexemeChars lexemes ++ rest)
      (lexemeTokens lexemes) rest := by
  induction lexemes generalizing brackets with
  | nil =>
    cases hafter
    exact fun _ => rfl
  | cons lexeme lexemes ih =>
    obtain ⟨hlexeme, hlexemes⟩ := List.forall_mem_cons.1 hvalid
    rw [Lexeme.fits, Bool.and_eq_true] at hfits
    rw [Lexeme.bracketsThrough?, List.foldlM_cons, Option.bind_eq_bind,
      Option.bind_eq_some_iff] at hafter
    obtain ⟨between, hbetween, hafter⟩ := hafter
    have hfirst := @cuts_lexeme blocks brackets between (lexemeChars lexemes ++ rest) _ lexeme
      hlexeme hfits.1 (head_lexemeChars hlexemes hrest) hbetween
    have hall := hfirst.trans (ih hlexemes hfits.2 hafter)
    rw [Nat.add_comm] at hall
    rw [lexemeChars, List.flatMap_cons, List.append_assoc]
    exact hall

theorem lexemeSteps_le (hvalid : ∀ lexeme ∈ lexemes, lexeme.IsValid) :
    lexemeSteps lexemes ≤ 2 * (lexemeChars lexemes).length := by
  induction lexemes with
  | nil => exact Nat.zero_le _
  | cons lexeme lexemes ih =>
    obtain ⟨hlexeme, hlexemes⟩ := List.forall_mem_cons.1 hvalid
    have hrest := ih hlexemes
    obtain ⟨c, tail, hchars, -⟩ := Lexeme.exists_cons_chars hlexeme
    have hsteps : lexeme.steps ≤ 2 := by cases lexeme <;> simp [Lexeme.steps]
    rw [lexemeSteps, lexemeChars, List.flatMap_cons, hchars, List.length_append, List.length_cons]
    rw [lexemeChars] at hrest
    omega

/-- The tokens of pieces end at a sign that does not fit the brackets that are open there. -/
theorem tokensWithin_lexemes {front back : List Lexeme} {c : Char}
    (hvalid : ∀ lexeme ∈ front ++ .sign c :: back, lexeme.IsValid)
    (hfits : Lexeme.fits (front ++ .sign c :: back) last = true)
    (hrest : ∀ c ∈ rest.head?, last.Admits c)
    (hbetween : Lexeme.bracketsThrough? brackets front = some after)
    (hafter : (Lexeme.sign c).bracketsAfter? after = none) (bound : Nat) :
    tokensWithin (bound + 1 + lexemeSteps front) blocks brackets false
        (lexemeChars (front ++ .sign c :: back) ++ rest) =
      lexemeTokens front ++ [.invalid .form true] := by
  obtain ⟨hfront, hback⟩ := List.forall_mem_append.1 hvalid
  obtain ⟨hsign, hback⟩ := List.forall_mem_cons.1 hback
  rw [Lexeme.fits_append, Bool.and_eq_true, Lexeme.fits, Bool.and_eq_true] at hfits
  have hhead := head_lexemeChars hback hrest
  have hcuts :=
    @cuts_lexemes blocks brackets after (c :: (lexemeChars back ++ rest)) (.char c) front
      hfront hfits.1 (by rintro d ⟨⟩; rfl) hbetween
  have hchars : lexemeChars (front ++ .sign c :: back) ++ rest =
      lexemeChars front ++ c :: (lexemeChars back ++ rest) := by
    simp [lexemeChars, Lexeme.chars]
  rw [hchars, hcuts, tokensWithin_sign hsign hfits.2.1 hhead hafter]

/-- Every piece has a character. -/
theorem length_le_lexemeChars (hvalid : ∀ lexeme ∈ lexemes, lexeme.IsValid) :
    lexemes.length ≤ (lexemeChars lexemes).length := by
  induction lexemes with
  | nil => exact Nat.le_refl _
  | cons lexeme lexemes ih =>
    obtain ⟨hlexeme, hlexemes⟩ := List.forall_mem_cons.1 hvalid
    have hrest := ih hlexemes
    obtain ⟨c, tail, hchars, -⟩ := Lexeme.exists_cons_chars hlexeme
    rw [lexemeChars, List.flatMap_cons, hchars, List.length_append, List.length_cons,
      List.length_cons]
    rw [lexemeChars] at hrest
    omega

/-- No piece is more tokens than characters. -/
theorem length_lexemeTokens_le (hvalid : ∀ lexeme ∈ lexemes, lexeme.IsValid) :
    (lexemeTokens lexemes).length ≤ (lexemeChars lexemes).length := by
  induction lexemes with
  | nil => exact Nat.le_refl _
  | cons lexeme lexemes ih =>
    obtain ⟨hlexeme, hlexemes⟩ := List.forall_mem_cons.1 hvalid
    have hrest := ih hlexemes
    obtain ⟨c, tail, hchars, -⟩ := Lexeme.exists_cons_chars hlexeme
    have htokens : lexeme.tokens.length ≤ 1 := by cases lexeme <;> simp [Lexeme.tokens]
    rw [lexemeTokens, List.flatMap_cons, List.length_append, lexemeChars, List.flatMap_cons, hchars,
      List.length_append, List.length_cons]
    rw [lexemeTokens, lexemeChars] at hrest
    omega

end

/-! ## Characters of pieces -/

/-- No piece has a line end of another kind in it, nor the character zero. -/
theorem not_mem_chars {lexeme : Lexeme} (hvalid : lexeme.IsValid) :
    '\r' ∉ lexeme.chars ∧ '\x00' ∉ lexeme.chars := by
  have hparts {chars : List Char} (h : ∀ c ∈ chars, isWordPart c = true) :
      '\r' ∉ chars ∧ '\x00' ∉ chars :=
    ⟨fun hm => Bool.false_ne_true (h _ hm), fun hm => Bool.false_ne_true (h _ hm)⟩
  have hprintable {chars : List Char} (h : ∀ c ∈ chars, 0x20 ≤ c.toNat) :
      '\r' ∉ chars ∧ '\x00' ∉ chars :=
    ⟨fun hm => absurd (h _ hm) (by decide), fun hm => absurd (h _ hm) (by decide)⟩
  cases lexeme with
  | name id => exact hparts (isWord_of_isIdentifier hvalid.1).parts
  | keyword word => exact hparts (isWord_of_isIdentifier hvalid.1).parts
  | number value =>
    exact hparts fun c hc => isWordPart_of_isDigit
      (List.all_eq_true.1 (Text.all_isDigit_decimalDigits value) c hc)
  | sign c =>
    have hsigns : Lexeme.signs.all (fun c => c ≠ '\r' ∧ c ≠ '\x00') = true := by decide
    have hc := of_decide_eq_true (List.all_eq_true.1 hsigns c hvalid)
    simpa [Lexeme.chars] using ⟨hc.1.symm, hc.2.symm⟩
  | text value => exact hprintable fun c => printable_of_mem_quotedText
  | description chars =>
    have hchars (c : Char) (hc : c ∈ chars) := isInertChar_iff.1 (List.all_eq_true.1 hvalid c hc)
    have hreturn : '\r' ∉ chars := fun hm => (hchars _ hm).2.2.2.1 rfl
    have hzero : '\x00' ∉ chars := fun hm => (hchars _ hm).2.2.2.2 rfl
    simp [Lexeme.chars, hreturn, hzero]
  | arrow => decide
  | gap => decide
  | fold blanks => simp [Lexeme.chars, List.mem_replicate]

theorem not_mem_lexemeChars {lexemes : List Lexeme}
    (hvalid : ∀ lexeme ∈ lexemes, lexeme.IsValid) :
    '\r' ∉ lexemeChars lexemes ∧ '\x00' ∉ lexemeChars lexemes := by
  simp only [lexemeChars, List.mem_flatMap, not_exists, not_and]
  exact ⟨fun lexeme hm => (not_mem_chars (hvalid lexeme hm)).1,
    fun lexeme hm => (not_mem_chars (hvalid lexeme hm)).2⟩

end ToolBindings.Script
