import ToolBindings.Proofs.Literal.Source
import ToolBindings.Proofs.Script.Refusals

/-!
# Literals with brackets that are too deep

The text of a literal is cut off at the first bracket that is too deep in others, and so it is no
script.

* `CutsOff`: pieces with a bracket that is too deep.
* `cutsOff_lexemes`: the pieces of a literal that is too deep.
* `ofText?_render_iff`: the literals whose text is a script.
-/
namespace ToolBindings.Literal
open Script

/-- Pieces behind some open brackets have one that is too deep, and what stands in front of it ends
in the way of expressions, or of parts with commas, that are cut off. -/
def CutsOff (brackets : List Char) (pieces : List Lexeme) (Failing : Nat → List Token → Prop) :
    Prop :=
  ∃ front c back between opened, pieces = front ++ .sign c :: back ∧
    Lexeme.bracketsThrough? brackets front = some between ∧ between.length = maxBrackets ∧
    (Lexeme.sign c).bracketsAfter? between = none ∧ opened ≤ back.length ∧
    Failing opened (lexemeTokens front ++ [cutOff])

section
variable {brackets : List Char} {pieces : List Lexeme} {Failing : Nat → List Token → Prop}

theorem bracketsAfter?_full {c close : Char} (h : closing? c = some close)
    (hlength : brackets.length = maxBrackets) :
    (Lexeme.sign c).bracketsAfter? brackets = none := by
  show Script.bracketsAfter? [c] brackets = none
  unfold Script.bracketsAfter?
  simp only [h, hlength, Nat.lt_irrefl, if_false]

/-- A bracket that is too deep itself. -/
theorem CutsOff.here {c close : Char} (hc : closing? c = some close)
    (hlength : brackets.length = maxBrackets) (back : List Lexeme) :
    CutsOff brackets (.sign c :: back) Fails :=
  ⟨[], c, back, brackets, 0, rfl, rfl, hlength, bracketsAfter?_full hc hlength, Nat.zero_le _,
    fails_cutOff⟩

/-- Pieces in front of those that are cut off, and others behind them. -/
theorem CutsOff.extend {inner : List Char} {more : Nat} (h : CutsOff inner pieces Failing)
    (before after : List Lexeme) (Outer : Nat → List Token → Prop)
    (hbefore : Lexeme.bracketsThrough? brackets before = some inner)
    (hafter : more ≤ after.length)
    (hfails : ∀ {opened ts}, Failing opened ts →
      Outer (opened + more) (lexemeTokens before ++ ts)) :
    CutsOff brackets (before ++ (pieces ++ after)) Outer := by
  obtain ⟨front, c, back, between, opened, rfl, hbetween, hlength, hsign, hopened, h⟩ := h
  refine ⟨before ++ front, c, back ++ after, between, opened + more, ?_, ?_, hlength, hsign, ?_, ?_⟩
  · simp only [List.append_assoc, List.cons_append]
  · rw [Lexeme.bracketsThrough?_append, hbefore]
    exact hbetween
  · rw [List.length_append]
    omega
  · rw [lexemeTokens_append, List.append_assoc]
    exact hfails h

end

mutual

theorem cutsOff_lexemes (level : Int) : ∀ (literal : Literal) (brackets : List Char),
    brackets.length ≤ maxBrackets → maxBrackets < brackets.length + literal.depth →
      CutsOff brackets (lexemes level literal) Fails
  | null, _, hle, h | bool _, _, hle, h | int _, _, hle, h | text _, _, hle, h => by
    rw [depth] at h
    omega
  | list items, brackets, hle, h => by
    rw [depth] at h
    rw [lexemes]
    obtain heq | hlt := Nat.eq_or_lt_of_le hle
    · exact .here rfl heq _
    · have hitems := cutsOff_itemLexemes level items (']' :: brackets) hlt
        (by rw [List.length_cons]; omega)
      exact hitems.extend [.sign '['] _ _
        (by rw [bracketsThrough?_cons, bracketsAfter?_open rfl hlt]; rfl) (Nat.le_refl 1)
        fun h => .list h
  | dict entries, brackets, hle, h => by
    rw [depth] at h
    by_cases hne : entries = []
    · subst hne
      rw [depthOfEntries] at h
      rw [lexemes]
      exact .here rfl (by omega) _
    · rw [lexemes_dict level hne]
      obtain heq | hlt := Nat.eq_or_lt_of_le hle
      · exact .here rfl heq _
      · have hentries := cutsOff_entriesLexemes (level + 1) entries
          ('\x7d' :: brackets) (List.cons_ne_nil _ _) hlt
          (by rw [List.length_cons]; omega)
        exact hentries.extend [.sign '\x7b'] _ _
          (by rw [bracketsThrough?_cons, bracketsAfter?_open rfl hlt]; rfl) (by simp)
          fun h => .dict h

theorem cutsOff_itemLexemes (level : Int) : ∀ (items : List Literal) (brackets : List Char),
    brackets.length ≤ maxBrackets → maxBrackets < brackets.length + depthOfItems items →
      CutsOff brackets (itemLexemes level items) fun opened => FailsBehind Reads (Fails opened)
  | [], _, hle, h => by
    rw [depthOfItems] at h
    omega
  | [item], brackets, hle, h => by
    rw [depthOfItems, depthOfItems, Nat.max_zero] at h
    have hitem := cutsOff_lexemes level item brackets hle h
    have hall := hitem.extend [] [] (fun opened => FailsBehind Reads (Fails opened)) rfl
      (Nat.zero_le _) fun h => .here h
    rwa [List.nil_append, List.append_nil] at hall
  | item :: next :: rest, brackets, hle, h => by
    rw [depthOfItems] at h
    rw [itemLexemes]
    by_cases hdeep : maxBrackets < brackets.length + item.depth
    · have hitem := cutsOff_lexemes level item brackets hle hdeep
      exact hitem.extend [] _ _ rfl (Nat.zero_le _) fun h => .here h
    · have hrest := cutsOff_itemLexemes level (next :: rest) brackets hle (by omega)
      have hbefore : Lexeme.bracketsThrough? brackets
          (lexemes level item ++ [.sign ',', .gap]) = some brackets := by
        rw [Lexeme.bracketsThrough?_append, bracketsThrough?_lexemes level item brackets (by omega)]
        rfl
      have hall := hrest.extend _ [] (fun opened => FailsBehind Reads (Fails opened)) hbefore
        (Nat.zero_le _) fun {opened ts} h => by
          have hbehind : FailsBehind Reads (Fails opened)
              (lexemeTokens (lexemes level item) ++ .symbol "," :: ts) :=
            .behind (reads_lexemes level item) h
          rw [lexemeTokens_append, List.append_assoc]
          exact hbehind
      rwa [List.append_nil, List.append_assoc] at hall

theorem cutsOff_entriesLexemes (level : Int) :
    ∀ (entries : List (String × Literal)) (brackets : List Char), brackets ≠ [] →
      brackets.length ≤ maxBrackets → maxBrackets < brackets.length + depthOfEntries entries →
        CutsOff brackets (entriesLexemes level entries) fun opened =>
          FailsBehind ReadsEntry (FailsEntry opened)
  | [], _, _, hle, h => by
    rw [depthOfEntries] at h
    omega
  | (key, value) :: rest, brackets, hne, hle, h => by
    rw [depthOfEntries] at h
    have hfold (blanks : Nat) : (Lexeme.fold blanks).bracketsAfter? brackets = some brackets :=
      if_neg (by rwa [List.isEmpty_iff])
    have hkey : Lexeme.bracketsThrough? brackets
        [.fold (4 * level.toNat), .text key, .sign ':', .gap] = some brackets := by
      rw [bracketsThrough?_cons, hfold]
      rfl
    rw [entriesLexemes, entryLexemes]
    by_cases hdeep : maxBrackets < brackets.length + value.depth
    · have hvalue := cutsOff_lexemes level value brackets hle hdeep
      have hall := hvalue.extend _ (.sign ',' :: entriesLexemes level rest)
        (fun opened => FailsBehind ReadsEntry (FailsEntry opened)) hkey (Nat.zero_le _) fun h =>
          .here (.mk (unescaped?_flatMap_escaped key.toList) h)
      simpa using hall
    · have hrest := cutsOff_entriesLexemes level rest brackets hne hle (by omega)
      have hbefore : Lexeme.bracketsThrough? brackets (.fold (4 * level.toNat) :: .text key ::
          .sign ':' :: .gap :: (lexemes level value ++ [.sign ','])) = some brackets := by
        rw [bracketsThrough?_cons, hfold]
        show Lexeme.bracketsThrough? brackets (lexemes level value ++ [.sign ',']) = _
        rw [Lexeme.bracketsThrough?_append,
          bracketsThrough?_lexemes level value brackets (by omega)]
        rfl
      have hall := hrest.extend _ [] (fun opened => FailsBehind ReadsEntry (FailsEntry opened))
        hbefore (Nat.zero_le _) fun {opened ts} h => by
          have hentry : ReadsEntry
              ((Lexeme.text key).tokens ++ .symbol ":" :: lexemeTokens (lexemes level value))
              (some (.constant (.text key)), value.expr) :=
            .mk (unescaped?_flatMap_escaped key.toList) (reads_lexemes level value)
          have hbehind := FailsBehind.behind hentry h
          simpa [lexemeTokens, Lexeme.tokens] using hbehind
      rwa [List.append_nil] at hall

end

/-! ## Texts -/

section
variable {literal : Literal}

/-- Something stands in front of a bracket that is too deep. -/
theorem ne_cutOff {level : Int} {front back : List Lexeme} {between : List Char}
    (hpieces : lexemes level literal = front ++ back)
    (hbetween : Lexeme.bracketsThrough? [] front = some between) (h : between ≠ []) :
    lexemeTokens front ++ [cutOff] ≠ [cutOff] := by
  cases front with
  | nil =>
    cases hbetween
    exact absurd rfl h
  | cons lexeme front =>
    have hlexeme : lexeme.tokens ≠ [] := by
      have hfirst : (lexemes level literal).head? = some lexeme := by rw [hpieces]; rfl
      cases literal with
      | int value =>
        cases value <;>
          (simp only [lexemes, numberLexemes, List.head?_cons, Option.some.injEq] at hfirst
           subst hfirst
           simp [Lexeme.tokens])
      | dict entries =>
        cases entries <;>
          (simp only [lexemes, List.head?_cons, Option.some.injEq] at hfirst
           subst hfirst
           simp [Lexeme.tokens])
      | _ =>
        simp only [lexemes, List.head?_cons, Option.some.injEq] at hfirst
        subst hfirst
        simp [Lexeme.tokens]
    intro heq
    have hlength := congrArg List.length heq
    rw [lexemeTokens_cons, List.length_append, List.length_append, List.length_singleton] at hlength
    exact hlexeme (List.length_eq_zero_iff.1 (by omega))

/-- What stands on a line that begins with some pieces and is a literal that is too deep. -/
theorem isCutCode_of_lexemes {level : Int} (h : IsReadable literal) {front back : List Lexeme}
    {c : Char} {between : List Char} (hpieces : lexemes level literal = front ++ .sign c :: back)
    (hbetween : Lexeme.bracketsThrough? [] front = some between)
    (hsign : (Lexeme.sign c).bracketsAfter? between = none) : IsCutCode front c back where
  valid := hpieces ▸ isValid_of_mem_lexemes level literal h
  fits := hpieces ▸ fits_lexemes level (by decide) literal
  brackets := ⟨between, hbetween, hsign⟩
  head := by
    rw [← hpieces]
    intro d hd hm
    exact headOf_lexemes_ne level literal _ hm hd

theorem ofText?_render_of_deep (level : Int) (h : IsReadable literal)
    (hdepth : maxBrackets < literal.depth) :
    ∃ flaw, Program.ofText? (literal.render level) = .error flaw := by
  obtain ⟨front, c, back, between, opened, hpieces, hbetween, hlength, hsign, hopened, hfails⟩ :=
    cutsOff_lexemes level literal [] (Nat.zero_le _) (by simpa using hdepth)
  have hne : between ≠ [] := by
    rintro rfl
    exact absurd hlength (by decide)
  refine ofText?_of_cut [] trivial
    (isCutCode_of_lexemes h hpieces hbetween hsign) List.not_mem_nil List.not_mem_nil rfl
    ?_ .nil rfl hopened (failsLine_expression hfails (ne_cutOff hpieces hbetween hne))
  have htext := isTextOf_render level literal
  rwa [IsTextOf, List.flatMap_singleton, hpieces] at htext

/-- The text of a literal is a script exactly if the literal is not too deep. -/
theorem ofText?_render_iff (level : Int) (h : IsReadable literal) :
    Program.ofText? (literal.render level) = .ok [.expression literal.expr] ↔
      literal.depth ≤ maxBrackets := by
  refine ⟨fun hok => Nat.le_of_not_lt fun hdepth => ?_, ofText?_render level h⟩
  obtain ⟨flaw, herror⟩ := ofText?_render_of_deep level h hdepth
  rw [hok] at herror
  cases herror

end

end ToolBindings.Literal
