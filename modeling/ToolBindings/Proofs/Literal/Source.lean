import ToolBindings.Proofs.Literal.Evaluation
import ToolBindings.Proofs.Script.Soundness

/-!
# Literals as scripts

The text of a literal is a script that is one expression, if its integers have no more digits than
are read and its brackets are not too deep in one another.

* `isCode_lexemes`: the text of a literal is one line of code.
* `ofText?_render`: the script that it is.
* `runText_render`: what it is evaluated to.
-/
namespace ToolBindings.Literal
open Script Eval
open Text (decimalDigits integerNumeral)

/-! ## One line -/

def fronts : List Head :=
  [.letter, .digit, .char '-', .char '"', .char '[', .char '\x7b']

theorem headOf_lexemes (level : Int) (literal : Literal) (last : Head) :
    Lexeme.headOf (lexemes level literal) last ∈ fronts := by
  cases literal with
  | int value => cases value <;> simp [lexemes, numberLexemes, Lexeme.headOf, Lexeme.head, fronts]
  | dict entries => cases entries <;> simp [lexemes, Lexeme.headOf, Lexeme.head, fronts]
  | _ => simp [lexemes, Lexeme.headOf, Lexeme.head, fronts]

/-- No literal begins with a mark of a line. -/
theorem headOf_lexemes_ne (level : Int) (literal : Literal) (last : Head) {c : Char}
    (hc : c ∈ lineMarks) : Lexeme.headOf (lexemes level literal) last ≠ .char c := by
  have hall : fronts.all (fun head => lineMarks.all (head ≠ .char ·)) = true := by decide
  have hhead := List.all_eq_true.1 hall _ (headOf_lexemes level literal last)
  exact of_decide_eq_true (List.all_eq_true.1 hhead c hc)

/-- No literal begins with a name. -/
theorem head?_lexemeTokens (level : Int) (literal : Literal) (id : String) :
    (lexemeTokens (lexemes level literal)).head? ≠ some (.name id) := by
  cases literal with
  | int value => cases value <;> simp [lexemes, numberLexemes, lexemeTokens, Lexeme.tokens]
  | dict entries => cases entries <;> simp [lexemes, lexemeTokens, Lexeme.tokens]
  | _ => simp [lexemes, lexemeTokens, Lexeme.tokens]

theorem isCode_lexemes (level : Int) {literal : Literal} (h : IsReadable literal)
    (hdepth : literal.depth ≤ maxBrackets) : IsCode (lexemes level literal) where
  valid := isValid_of_mem_lexemes level literal h
  fits := fits_lexemes level (by decide) literal
  brackets := bracketsThrough?_lexemes level literal [] (by rwa [List.length_nil, Nat.zero_add])
  head d hd hm := by
    exact headOf_lexemes_ne level literal _ hm hd

/-- A literal does not end in a line end. -/
theorem getLast?_written (level : Int) (literal : Literal) :
    (written level literal).getLast? ≠ some '\n' := by
  have hdigits (n : Nat) : (decimalDigits n).getLast? ≠ some '\n' := by
    intro hlast
    have hm := List.mem_of_getLast? hlast
    have := List.all_eq_true.1 (Text.all_isDigit_decimalDigits n) _ hm
    exact absurd this (by decide)
  cases literal with
  | null => rw [written]; decide
  | bool value => cases value <;> rw [written] <;> decide
  | int value =>
    rw [written]
    cases value with
    | ofNat n => exact hdigits n
    | negSucc n =>
      rw [integerNumeral, List.getLast?_cons_of_ne_nil (Text.decimalDigits_ne_nil _)]
      exact hdigits _
  | text value => rw [written, quotedText, List.getLast?_concat]; decide
  | list items => rw [written, List.getLast?_concat]; decide
  | dict entries =>
    cases entries with
    | nil => rw [written]; decide
    | cons entry entries => rw [written, List.getLast?_concat]; decide

/-! ## What it does -/

mutual

/-- Nothing in a literal is done to names. -/
theorem occurrences_expr (bound : Nat) : ∀ literal : Literal,
    Expr.occurrences bound false literal.expr = []
  | null | bool _ | text _ => by cases bound <;> rfl
  | int value => by
    cases bound with
    | zero => rfl
    | succ bound =>
      cases value with
      | ofNat n => rfl
      | negSucc n => cases bound <;> rfl
  | list items => by
    cases bound with
    | zero => rfl
    | succ bound =>
      rw [expr, Expr.occurrences]
      exact occurrences_itemExprs bound items
  | dict entries => by
    cases bound with
    | zero => rfl
    | succ bound =>
      rw [expr, Expr.occurrences]
      exact occurrences_entryExprs bound entries

theorem occurrences_itemExprs (bound : Nat) : ∀ items : List Literal,
    ((itemExprs items).flatMap fun e => match e with
      | .spread items => Expr.occurrences bound false items
      | e => Expr.occurrences bound false e) = []
  | [] => rfl
  | item :: rest => by
    have hitem := occurrences_expr bound item
    have hspread : ∀ e, item.expr ≠ .spread e := by
      cases item with
      | int value => cases value <;> nofun
      | _ => nofun
    rw [itemExprs, List.flatMap_cons, occurrences_itemExprs bound rest, List.append_nil]
    split
    · next e heq => exact absurd heq (hspread e)
    · exact hitem

theorem occurrences_entryExprs (bound : Nat) : ∀ entries : List (String × Literal),
    ((entryExprs entries).flatMap fun (key, e) =>
      key.toList.flatMap (Expr.occurrences bound false) ++ Expr.occurrences bound false e) = []
  | [] => rfl
  | (key, value) :: rest => by
    have hkey : Expr.occurrences bound false (.constant (.text key)) = [] := by cases bound <;> rfl
    have hvalue := occurrences_expr bound value
    rw [entryExprs, List.flatMap_cons, occurrences_entryExprs bound rest, List.append_nil]
    simp only [Option.toList_some, List.flatMap_singleton, hkey, hvalue, List.append_nil]

end

section
variable {literal : Literal}

/-- The text of a literal is one line. -/
theorem isTextOf_render (level : Int) (literal : Literal) :
    IsTextOf (literal.render level) [.code 0 (lexemes level literal)] := by
  refine .inr ⟨?_, ?_⟩
  · rw [render, String.toList_ofList]
    exact getLast?_written level literal
  · rw [render, String.toList_ofList, List.flatMap_singleton, Line.chars, lexemeChars_lexemes]
    rfl

theorem areLines_lexemes (level : Int) (h : IsReadable literal)
    (hdepth : literal.depth ≤ maxBrackets) : AreLines 0 [.code 0 (lexemes level literal)] :=
  ⟨⟨Nat.zero_le _, by decide, isCode_lexemes level h hdepth⟩, trivial⟩

theorem lineTokens_lexemes (level : Int) (literal : Literal) :
    lineTokens ending 0 [.code 0 (lexemes level literal)] =
      lexemeTokens (lexemes level literal) ++ [.newline] ++ [.finish] := by
  simp [lineTokens, ending, Line.tokens, Line.margin, Line.levelAfter]

theorem ofText?_render (level : Int) (h : IsReadable literal)
    (hdepth : literal.depth ≤ maxBrackets) :
    Program.ofText? (literal.render level) = .ok [.expression literal.expr] := by
  have hline := readsLine_expression (reads_lexemes level literal) (head?_lexemeTokens level _ _)
  have hsplit : Program.splitFeatures [.expression literal.expr] =
      ([], if (Statement.expression literal.expr).isDescription then [] else
        [.expression literal.expr]) := by
    simp only [Program.splitFeatures]
    split <;> rfl
  refine ofText?_of_body (areLines_lexemes level h hdepth) (List.cons_ne_nil _ _)
    (isTextOf_render level literal) (lineTokens_lexemes level literal) hline.statement.body ?_ ?_
  · rw [hsplit]
    rfl
  · intro bound s hs
    have hs : s ∈ [Statement.expression literal.expr] := by
      rw [hsplit] at hs
      split at hs
      · cases hs
      · exact hs
    obtain rfl := List.mem_singleton.1 hs
    cases bound with
    | zero => trivial
    | succ bound =>
      rw [Statement.occurrences]
      exact (occurrences_expr bound literal).symm ▸ trivial

end

end ToolBindings.Literal
