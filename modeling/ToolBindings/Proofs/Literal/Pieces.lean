import ToolBindings.Literal.Value
import ToolBindings.Proofs.Literal.Unambiguous
import ToolBindings.Proofs.Script.Brackets
import ToolBindings.Proofs.Script.Lexemes

/-!
# Literals as pieces of a script

The text of a literal is cut into pieces: quoted texts, numbers, brackets, and line ends inside
braces. The tokens of the pieces are read as an expression that is built like the literal.

* `lexemes`, `lexemeChars_lexemes`: the pieces, and that they are the text of the literal.
* `isValid_of_mem_lexemes`, `fits_lexemes`: each piece is one token.
* `bracketsThrough?_lexemes`: a literal closes the brackets that it opens, if it is not too deep.
* `expr`, `reads_lexemes`: the expression as which a literal is read.
-/
namespace ToolBindings.Literal
open Script
open Text (decimalDigits integerNumeral)

/-! ## Pieces -/

/-- The digits of a number, behind a sign if it is negative. -/
def numberLexemes : Int → List Lexeme
  | .ofNat n => [.number n]
  | .negSucc n => [.sign '-', .number (n + 1)]

mutual

/-- The pieces of a literal that begins on a line of a level. -/
def lexemes (level : Int) : Literal → List Lexeme
  | null => [.keyword "None"]
  | bool value => [.keyword (if value then "True" else "False")]
  | int value => numberLexemes value
  | text value => [.text value]
  | list items => .sign '[' :: (itemLexemes level items ++ [.sign ']'])
  | dict [] => [.sign '\x7b', .sign '\x7d']
  | dict (entry :: entries) => .sign '\x7b' :: (entryLexemes (level + 1) entry ++
      entriesLexemes (level + 1) entries ++ [.fold (4 * level.toNat), .sign '\x7d'])

def itemLexemes (level : Int) : List Literal → List Lexeme
  | [] => []
  | [item] => lexemes level item
  | item :: next :: rest =>
    lexemes level item ++ .sign ',' :: .gap :: itemLexemes level (next :: rest)

/-- The pieces of an entry, with the line end in front of it. -/
def entryLexemes (level : Int) : String × Literal → List Lexeme
  | (key, value) => .fold (4 * level.toNat) :: .text key :: .sign ':' :: .gap ::
      (lexemes level value ++ [.sign ','])

def entriesLexemes (level : Int) : List (String × Literal) → List Lexeme
  | [] => []
  | entry :: rest => entryLexemes level entry ++ entriesLexemes level rest

end

theorem lexemes_dict (level : Int) {entries : List (String × Literal)} (h : entries ≠ []) :
    lexemes level (dict entries) = .sign '\x7b' :: (entriesLexemes (level + 1) entries ++
      [.fold (4 * level.toNat), .sign '\x7d']) := by
  obtain ⟨entry, rest, rfl⟩ := List.exists_cons_of_ne_nil h
  rw [lexemes, entriesLexemes]

section
variable {front back : List Lexeme}

theorem lexemeChars_append : lexemeChars (front ++ back) = lexemeChars front ++ lexemeChars back :=
  List.flatMap_append

theorem lexemeChars_cons (lexeme : Lexeme) :
    lexemeChars (lexeme :: back) = lexeme.chars ++ lexemeChars back :=
  List.flatMap_cons

theorem lexemeTokens_append :
    lexemeTokens (front ++ back) = lexemeTokens front ++ lexemeTokens back :=
  List.flatMap_append

theorem lexemeTokens_cons (lexeme : Lexeme) :
    lexemeTokens (lexeme :: back) = lexeme.tokens ++ lexemeTokens back :=
  List.flatMap_cons

end

mutual

/-- The pieces of a literal are its text. -/
theorem lexemeChars_lexemes (level : Int) :
    ∀ literal, lexemeChars (lexemes level literal) = written level literal
  | null => by rw [lexemes, written]; rfl
  | bool value => by cases value <;> rw [lexemes, written] <;> rfl
  | int value => by
    rw [lexemes, written]
    cases value with
    | ofNat n => exact List.append_nil _
    | negSucc n => exact congrArg ('-' :: ·) (List.append_nil _)
  | text value => by
    rw [lexemes, written]
    exact List.append_nil _
  | list items => by
    rw [lexemes, written, lexemeChars_cons, lexemeChars_append, lexemeChars_itemLexemes level items]
    rfl
  | dict entries => by
    by_cases hne : entries = []
    · subst hne
      rw [lexemes, written]
      rfl
    · have hinner := lexemeChars_entriesLexemes (level + 1) entries
      have hlast : lexemeChars [.fold (4 * level.toNat), .sign '\x7d'] =
          '\n' :: (indentation level ++ ['\x7d']) := by
        simp [lexemeChars, Lexeme.chars, indentation]
      rw [lexemes_dict level hne, lexemeChars_cons, lexemeChars_append, hlast, written_dict _ hne,
        List.append_cons _ '\n', hinner]
      simp only [Lexeme.chars, List.cons_append, List.nil_append]

theorem lexemeChars_itemLexemes (level : Int) :
    ∀ items, lexemeChars (itemLexemes level items) = writtenItems level items
  | [] => rfl
  | [item] => lexemeChars_lexemes level item
  | item :: next :: rest => by
    rw [itemLexemes, writtenItems, lexemeChars_append, lexemeChars_lexemes level item,
      lexemeChars_cons, lexemeChars_cons, lexemeChars_itemLexemes level (next :: rest)]
    rfl

/-- The line end in front of an entry belongs to the line before it. -/
theorem lexemeChars_entriesLexemes (level : Int) : ∀ entries,
    lexemeChars (entriesLexemes level entries) ++ ['\n'] = '\n' :: writtenEntries level entries
  | [] => rfl
  | (key, value) :: rest => by
    rw [entriesLexemes, writtenEntries, lexemeChars_append, List.append_assoc,
      lexemeChars_entriesLexemes level rest, entryLexemes, writtenEntry]
    simp only [lexemeChars_cons, lexemeChars_append, lexemeChars_lexemes level value]
    simp [lexemeChars, Lexeme.chars, indentation]

end

/-! ## One token each -/

mutual

/-- A literal whose integers have no more digits than are read. -/
def IsReadable : Literal → Prop
  | int value => isConverted value = true
  | list items => AreReadable items
  | dict entries => EntriesAreReadable entries
  | null | bool _ | text _ => True

def AreReadable : List Literal → Prop
  | [] => True
  | item :: rest => IsReadable item ∧ AreReadable rest

def EntriesAreReadable : List (String × Literal) → Prop
  | [] => True
  | (_, value) :: rest => IsReadable value ∧ EntriesAreReadable rest

end

/-- The characters in front of which a literal ends. -/
def enders : List Char := [',', ']', '\n']

theorem isValid_keyword {word : String} (h : word ∈ ["None", "True", "False"]) :
    (Lexeme.keyword word).IsValid := by
  have hall : ∀ word ∈ ["None", "True", "False"], Text.isIdentifier word.toList = true ∧
      wordToken word.toList = .keyword word := by decide
  exact hall word h

theorem isValid_numberLexemes {value : Int} (h : isConverted value = true) :
    ∀ lexeme ∈ numberLexemes value, lexeme.IsValid := by
  have hlt : value.natAbs < Text.decimalLimit Text.maxDecimalDigits := of_decide_eq_true h
  cases value with
  | ofNat n =>
    rw [numberLexemes, List.forall_mem_singleton]
    exact hlt
  | negSucc n =>
    rw [numberLexemes, List.forall_mem_cons, List.forall_mem_singleton]
    exact ⟨by simp [Lexeme.IsValid, Lexeme.signs], hlt⟩

mutual

theorem isValid_of_mem_lexemes (level : Int) : ∀ literal, IsReadable literal →
    ∀ lexeme ∈ lexemes level literal, lexeme.IsValid
  | null, _ => by
    rw [lexemes, List.forall_mem_singleton]
    exact isValid_keyword (by decide)
  | bool value, _ => by
    rw [lexemes, List.forall_mem_singleton]
    exact isValid_keyword (by cases value <;> decide)
  | int value, h => by
    rw [lexemes]
    exact isValid_numberLexemes (by rwa [IsReadable] at h)
  | text value, _ => by
    rw [lexemes, List.forall_mem_singleton]
    trivial
  | list items, h => by
    have hitems := isValid_of_mem_itemLexemes level items (by rwa [IsReadable] at h)
    rw [lexemes, List.forall_mem_cons, List.forall_mem_append, List.forall_mem_singleton]
    exact ⟨by simp [Lexeme.IsValid, Lexeme.signs], hitems,
      by simp [Lexeme.IsValid, Lexeme.signs]⟩
  | dict entries, h => by
    by_cases hne : entries = []
    · subst hne
      rw [lexemes, List.forall_mem_cons, List.forall_mem_singleton]
      exact ⟨by simp [Lexeme.IsValid, Lexeme.signs], by simp [Lexeme.IsValid, Lexeme.signs]⟩
    · have hentries :=
        isValid_of_mem_entriesLexemes (level + 1) entries (by rwa [IsReadable] at h)
      rw [lexemes_dict level hne, List.forall_mem_cons, List.forall_mem_append,
        List.forall_mem_cons, List.forall_mem_singleton]
      exact ⟨by simp [Lexeme.IsValid, Lexeme.signs], hentries, trivial,
        by simp [Lexeme.IsValid, Lexeme.signs]⟩

theorem isValid_of_mem_itemLexemes (level : Int) : ∀ items, AreReadable items →
    ∀ lexeme ∈ itemLexemes level items, lexeme.IsValid
  | [], _ => nofun
  | [item], h => isValid_of_mem_lexemes level item h.1
  | item :: next :: rest, h => by
    rw [itemLexemes, List.forall_mem_append, List.forall_mem_cons, List.forall_mem_cons]
    exact ⟨isValid_of_mem_lexemes level item h.1, by simp [Lexeme.IsValid, Lexeme.signs], trivial,
      isValid_of_mem_itemLexemes level (next :: rest) h.2⟩

theorem isValid_of_mem_entriesLexemes (level : Int) : ∀ entries, EntriesAreReadable entries →
    ∀ lexeme ∈ entriesLexemes level entries, lexeme.IsValid
  | [], _ => nofun
  | (key, value) :: rest, h => by
    have hvalue := isValid_of_mem_lexemes level value h.1
    rw [entriesLexemes, List.forall_mem_append, entryLexemes]
    refine ⟨?_, isValid_of_mem_entriesLexemes level rest h.2⟩
    simp only [List.forall_mem_cons, List.forall_mem_append]
    exact ⟨trivial, trivial, by simp [Lexeme.IsValid, Lexeme.signs], trivial, hvalue,
      by simp [Lexeme.IsValid, Lexeme.signs], nofun⟩

end

/-- A bracket or a comma ends in front of anything. -/
theorem stops_bracket {c : Char} (h : c ∈ ['[', ']', '\x7b', '\x7d', ',']) (head : Head) :
    (Lexeme.sign c).stops head = true := by
  have hall : ['[', ']', '\x7b', '\x7d', ','].all (fun c => c != '.' &&
      Lexeme.joinedSigns.all (·.1 != c)) = true := by decide
  have hc := List.all_eq_true.1 hall c h
  rw [Bool.and_eq_true] at hc
  cases head with
  | letter => rfl
  | digit => exact hc.1
  | char d =>
    rw [Lexeme.stops, hc.1, Bool.true_and, Bool.not_eq_true', List.contains_eq_mem,
      decide_eq_false_iff_not]
    intro hm
    have := List.all_eq_true.1 hc.2 _ hm
    simp at this

theorem stops_of_ender {c : Char} (h : c ∈ enders) :
    endsWord c = true ∧ c ≠ '.' ∧ c ≠ '"' := by
  simp only [enders, List.mem_cons, List.not_mem_nil, or_false] at h
  obtain rfl | rfl | rfl := h <;> decide

theorem fits_numberLexemes {c : Char} (h : c ∈ enders) (value : Int) :
    Lexeme.fits (numberLexemes value) (.char c) = true := by
  obtain ⟨hends, hdot, -⟩ := stops_of_ender h
  cases value with
  | ofNat n => simp [numberLexemes, Lexeme.fits, Lexeme.headOf, Lexeme.stops, hends, hdot]
  | negSucc n =>
    simp [numberLexemes, Lexeme.fits, Lexeme.headOf, Lexeme.head, Lexeme.stops, hends, hdot]

mutual

theorem fits_lexemes (level : Int) {c : Char} (h : c ∈ enders) :
    ∀ literal, Lexeme.fits (lexemes level literal) (.char c) = true
  | null => by
    rw [lexemes]
    simp [Lexeme.fits, Lexeme.headOf, Lexeme.stops, (stops_of_ender h).1]
  | bool value => by
    rw [lexemes]
    simp [Lexeme.fits, Lexeme.headOf, Lexeme.stops, (stops_of_ender h).1]
  | int value => by
    rw [lexemes]
    exact fits_numberLexemes h value
  | text value => by
    rw [lexemes]
    simp [Lexeme.fits, Lexeme.headOf, Lexeme.stops, (stops_of_ender h).2.2]
  | list items => by
    have hitems := fits_itemLexemes level items
    rw [lexemes, Lexeme.fits, stops_bracket (by decide), Bool.true_and, Lexeme.fits_append,
      Lexeme.fits, stops_bracket (by decide), Bool.true_and, Lexeme.fits, Bool.and_true]
    exact hitems
  | dict entries => by
    by_cases hne : entries = []
    · subst hne
      rw [lexemes, Lexeme.fits, stops_bracket (by decide), Lexeme.fits,
        stops_bracket (by decide), Lexeme.fits]
      rfl
    · have hentries := fits_entriesLexemes (level + 1) entries
      rw [lexemes_dict level hne, Lexeme.fits, stops_bracket (by decide), Bool.true_and,
        Lexeme.fits_append, Bool.and_eq_true]
      refine ⟨hentries, ?_⟩
      rw [Lexeme.fits, Lexeme.fits, stops_bracket (by decide), Lexeme.fits]
      rfl

theorem fits_itemLexemes (level : Int) :
    ∀ items, Lexeme.fits (itemLexemes level items) (.char ']') = true
  | [] => rfl
  | [item] => fits_lexemes level (by decide) item
  | item :: next :: rest => by
    rw [itemLexemes, Lexeme.fits_append, Bool.and_eq_true]
    refine ⟨fits_lexemes level (c := ',') (by decide) item, ?_⟩
    rw [Lexeme.fits, stops_bracket (by decide), Bool.true_and, Lexeme.fits,
      fits_itemLexemes level (next :: rest), Bool.and_true]
    rfl

theorem fits_entriesLexemes (level : Int) :
    ∀ entries, Lexeme.fits (entriesLexemes level entries) (.char '\n') = true
  | [] => rfl
  | (key, value) :: rest => by
    have hvalue := fits_lexemes level (c := ',') (by decide) value
    rw [entriesLexemes, Lexeme.fits_append, fits_entriesLexemes level rest, Bool.and_true,
      entryLexemes]
    simp only [Lexeme.fits, stops_bracket (c := ',') (by decide), Bool.and_true, Lexeme.fits_append]
    rw [show Lexeme.headOf [Lexeme.sign ','] _ = .char ',' from rfl, hvalue, Bool.and_true]
    rfl

end

/-! ## Brackets -/

section
variable {brackets : List Char}

theorem bracketsAfter?_open {c close : Char} (h : closing? c = some close)
    (hlength : brackets.length < maxBrackets) :
    (Lexeme.sign c).bracketsAfter? brackets = some (close :: brackets) := by
  show Script.bracketsAfter? [c] brackets = _
  unfold Script.bracketsAfter?
  simp only [h, if_pos hlength]

theorem bracketsThrough?_cons (lexeme : Lexeme) (rest : List Lexeme) :
    Lexeme.bracketsThrough? brackets (lexeme :: rest) =
      (lexeme.bracketsAfter? brackets).bind fun after => Lexeme.bracketsThrough? after rest :=
  List.foldlM_cons

end

mutual

/-- A literal leaves open what was open, unless it opens too many brackets. -/
theorem bracketsThrough?_lexemes (level : Int) : ∀ literal (brackets : List Char),
    brackets.length + literal.depth ≤ maxBrackets →
      Lexeme.bracketsThrough? brackets (lexemes level literal) = some brackets
  | null, _, _ => by rw [lexemes]; rfl
  | bool _, _, _ => by rw [lexemes]; rfl
  | int value, _, _ => by rw [lexemes]; cases value <;> rfl
  | text _, _, _ => by rw [lexemes]; rfl
  | list items, brackets, h => by
    rw [depth] at h
    have hitems := bracketsThrough?_itemLexemes level items (']' :: brackets)
      (by rw [List.length_cons]; omega)
    rw [lexemes, bracketsThrough?_cons, bracketsAfter?_open rfl (by omega), Option.bind_some,
      Lexeme.bracketsThrough?_append, hitems]
    rfl
  | dict entries, brackets, h => by
    rw [depth] at h
    by_cases hne : entries = []
    · subst hne
      rw [lexemes, bracketsThrough?_cons, bracketsAfter?_open rfl (by omega)]
      rfl
    · have hentries := bracketsThrough?_entriesLexemes (level + 1) entries
        ('\x7d' :: brackets) (List.cons_ne_nil _ _) (by rw [List.length_cons]; omega)
      rw [lexemes_dict level hne, bracketsThrough?_cons, bracketsAfter?_open rfl (by omega),
        Option.bind_some, Lexeme.bracketsThrough?_append, hentries]
      rfl

theorem bracketsThrough?_itemLexemes (level : Int) : ∀ items (brackets : List Char),
    brackets.length + depthOfItems items ≤ maxBrackets →
      Lexeme.bracketsThrough? brackets (itemLexemes level items) = some brackets
  | [], _, _ => rfl
  | [item], brackets, h => by
    rw [depthOfItems] at h
    exact bracketsThrough?_lexemes level item brackets (by omega)
  | item :: next :: rest, brackets, h => by
    rw [depthOfItems] at h
    have hitem := bracketsThrough?_lexemes level item brackets (by omega)
    have hrest := bracketsThrough?_itemLexemes level (next :: rest) brackets (by omega)
    rw [itemLexemes, Lexeme.bracketsThrough?_append, hitem]
    exact hrest

theorem bracketsThrough?_entriesLexemes (level : Int) : ∀ entries (brackets : List Char),
    brackets ≠ [] → brackets.length + depthOfEntries entries ≤ maxBrackets →
      Lexeme.bracketsThrough? brackets (entriesLexemes level entries) = some brackets
  | [], _, _, _ => rfl
  | (key, value) :: rest, brackets, hne, h => by
    rw [depthOfEntries] at h
    have hvalue := bracketsThrough?_lexemes level value brackets (by omega)
    have hrest := bracketsThrough?_entriesLexemes level rest brackets hne (by omega)
    have hfold (blanks : Nat) : (Lexeme.fold blanks).bracketsAfter? brackets = some brackets :=
      if_neg (by rwa [List.isEmpty_iff])
    have hentry : Lexeme.bracketsThrough? brackets (entryLexemes level (key, value)) =
        some brackets := by
      rw [entryLexemes, bracketsThrough?_cons, hfold]
      show Lexeme.bracketsThrough? brackets (lexemes level value ++ [.sign ',']) = _
      rw [Lexeme.bracketsThrough?_append, hvalue]
      rfl
    rw [entriesLexemes, Lexeme.bracketsThrough?_append, hentry]
    exact hrest

end

/-! ## The expression of a literal -/

def numberExpr : Int → Expr
  | .ofNat n => .constant (.number (.int n))
  | .negSucc n => .unary .minus (.constant (.number (.int (n + 1))))

mutual

def expr : Literal → Expr
  | null => .constant .none
  | bool value => .constant (.bool value)
  | int value => numberExpr value
  | text value => .constant (.text value)
  | list items => .list (itemExprs items)
  | dict entries => .dict (entryExprs entries)

def itemExprs : List Literal → List Expr
  | [] => []
  | item :: rest => expr item :: itemExprs rest

def entryExprs : List (String × Literal) → List (Option Expr × Expr)
  | [] => []
  | (key, value) :: rest => (some (.constant (.text key)), expr value) :: entryExprs rest

end

theorem reads_quoted (value : String) :
    Reads (Lexeme.text value).tokens (.constant (.text value)) :=
  reads_text (unescaped?_flatMap_escaped value.toList)

mutual

theorem reads_lexemes (level : Int) :
    ∀ literal, Reads (lexemeTokens (lexemes level literal)) literal.expr
  | null => by rw [lexemes]; exact reads_none
  | bool value => by rw [lexemes]; exact reads_bool value
  | int value => by
    rw [lexemes, expr]
    cases value with
    | ofNat n => exact reads_number (.int n)
    | negSucc n => exact reads_negative (.int (n + 1))
  | text value => by rw [lexemes]; exact reads_quoted value
  | list items => by
    by_cases hne : items = []
    · subst hne
      rw [lexemes]
      exact reads_list_nil
    · have hread := reads_list (separated_itemLexemes level items hne)
      rw [lexemes, lexemeTokens_cons, lexemeTokens_append, expr]
      exact hread
  | dict entries => by
    by_cases hne : entries = []
    · subst hne
      rw [lexemes]
      exact reads_dict_nil
    · have hread := reads_dict (separated_entriesLexemes (level + 1) entries hne)
      rw [lexemes_dict level hne, lexemeTokens_cons, lexemeTokens_append, expr]
      exact hread

theorem separated_itemLexemes (level : Int) : ∀ items, items ≠ [] →
    Separated Reads (lexemeTokens (itemLexemes level items)) (itemExprs items) false
  | [], h => absurd rfl h
  | [item], _ => .one (reads_lexemes level item)
  | item :: next :: rest, _ => by
    have hrest := separated_itemLexemes level (next :: rest) (List.cons_ne_nil _ _)
    rw [itemLexemes, lexemeTokens_append, itemExprs]
    exact .cons (reads_lexemes level item) hrest

/-- Behind every entry stands a comma. -/
theorem separated_entriesLexemes (level : Int) : ∀ entries, entries ≠ [] →
    Separated ReadsEntry (lexemeTokens (entriesLexemes level entries)) (entryExprs entries) true
  | [], h => absurd rfl h
  | (key, value) :: rest, _ => by
    have hentry : ReadsEntry
        ((Lexeme.text key).tokens ++ .symbol ":" :: lexemeTokens (lexemes level value))
        (some (.constant (.text key)), value.expr) :=
      .mk (unescaped?_flatMap_escaped key.toList) (reads_lexemes level value)
    have htokens : lexemeTokens (entryLexemes level (key, value)) =
        (Lexeme.text key).tokens ++ .symbol ":" :: lexemeTokens (lexemes level value) ++
          [.symbol ","] := by
      rw [entryLexemes, lexemeTokens_cons, lexemeTokens_cons, lexemeTokens_cons, lexemeTokens_cons,
        lexemeTokens_append]
      rfl
    rw [entriesLexemes, lexemeTokens_append, htokens, entryExprs]
    by_cases hne : rest = []
    · subst hne
      exact (List.append_nil _).symm ▸ .comma hentry
    · have hrest := separated_entriesLexemes level rest hne
      rw [List.append_assoc]
      exact .cons hentry hrest

end

end ToolBindings.Literal
