import ToolBindings.Proofs.Script.Brackets
import ToolBindings.Script.Reader.Statement

/-!
# Reading statements

A line of code is read as one statement, and a block as the statements on its lines.

* `assigned_of_reads`: the right side of an assignment.
* `ReadsLine`, `readsLine_expression`, …: lines that are a simple statement.
* `ReadsStatement`, `ReadsBody`: statements with their blocks, one behind the other.
* `statementsUntil_of_reads`: they are read up to the end of the block.
* `readsStatement_branch`, `readsStatement_function`: statements with blocks.
-/
namespace ToolBindings.Script
open Reader

/-! ## Right sides -/

section
variable {ts rest : List Token} {e : Expr} {c : Token} {b d : Nat}

theorem expressions_of_reads (h : Reads ts e) (hb : ts.length + 1 ≤ b) (hd : ts.length + 1 ≤ d)
    (hc : c ∈ closers) (hcomma : c ≠ .symbol ",") (rest : List Token) :
    expressions (rules b d) (ts ++ c :: rest) = .ok (e, c :: rest) := by
  have hread := h.read b d hb hd c hc rest
  have hitem : listItem (rules b d) (rules b d).expression (ts ++ c :: rest) =
      .ok (e, c :: rest) := by
    obtain ⟨token, others, rfl, hhead⟩ := h.head
    exact (bind_of_ok (accept_of_ne (ne_of_beginsTerm hhead rfl))).trans hread
  have hstep : listedStep Token.beginsItem (listItem (rules b d) (rules b d).expression)
      ([e], false) (c :: rest) = .ok (none, c :: rest) :=
    (bind_of_ok (accept_of_ne hcomma)).trans rfl
  unfold expressions tupled
  rw [listed_eq]
  refine (bind_of_ok (a := ([e], false)) ?_).trans rfl
  exact (bind_of_ok hitem).trans ((bind_of_ok (iterate_of_none hstep)).trans rfl)

theorem assigned_of_reads (h : Reads ts e) (hb : ts.length + 1 ≤ b) (hd : ts.length + 1 ≤ d)
    (hc : c ∈ closers) (hcomma : c ≠ .symbol ",") (rest : List Token) :
    assigned (rules b d) (ts ++ c :: rest) = .ok (e, c :: rest) := by
  have hread := expressions_of_reads h hb hd hc hcomma rest
  obtain ⟨token, others, rfl, hhead⟩ := h.head
  exact (bind_of_ok (nextIs_of_ne (ne_of_beginsTerm hhead rfl))).trans hread

end

/-! ## Lines -/

/-- A simple statement begins with a token. -/
def Token.BeginsLine (token : Token) : Prop :=
  token.beginsTerm = true ∧ token ≠ .name "match" ∨
    ∃ word, token = .keyword word ∧ word ∈ ["return", "raise", "import", "from"]

/-- Tokens of a line that are read as a simple statement. -/
structure ReadsLine (ts : List Token) (s : Statement) : Prop where
  head : ∃ token rest, ts = token :: rest ∧ token.BeginsLine
  read : ∀ b d, ts.length + 1 ≤ b → ts.length + 1 ≤ d → ∀ rest,
    simpleStatement (rules b d) (ts ++ .newline :: rest) = .ok (s, .newline :: rest)

section
variable {ts : List Token} {e : Expr}

theorem simpleStatement_of_beginsTerm {r : Rules} {token : Token} {rest : List Token}
    (h : token.beginsTerm = true) :
    simpleStatement r (token :: rest) = expressionStatement r (token :: rest) := by
  unfold simpleStatement
  refine (bind_of_ok peek_cons).trans ?_
  split
  all_goals first
    | exact absurd rfl (ne_of_beginsTerm h rfl)
    | rfl

theorem readsLine_expression (h : Reads ts e) (hmatch : ts.head? ≠ some (.name "match")) :
    ReadsLine ts (.expression e) := by
  obtain ⟨token, others, rfl, hhead⟩ := h.head
  refine ⟨⟨token, others, rfl, .inl ⟨hhead, fun heq => hmatch (congrArg some heq)⟩⟩,
    fun b d hb hd rest => ?_⟩
  have hread := assigned_of_reads h hb hd (c := .newline) (by decide) nofun rest
  rw [List.cons_append, simpleStatement_of_beginsTerm hhead]
  unfold expressionStatement
  exact (bind_of_ok peek_cons).trans ((bind_of_ok hread).trans ((bind_of_ok peek_cons).trans rfl))

theorem simpleStatements_of_ok {r : Rules} {tokens rest : List Token} {s : Statement}
    (h : simpleStatement r tokens = .ok (s, .newline :: rest)) :
    simpleStatements r tokens = .ok ([s], rest) := by
  unfold simpleStatements
  refine (bind_of_ok h).trans ((bind_of_ok (a := false) rfl).trans ?_)
  exact (bind_of_ok (a := ([s], false)) (iterate_of_none (a := ([s], false)) rfl)).trans rfl

end

/-! ## Statements -/

/-- Tokens with which a statement does not begin. -/
def ends : List Token := [.finish, .dedent, .keyword "elif", .keyword "else"]

/-- Tokens that are read as statements, in front of what is no further part of them. -/
structure ReadsStatement (ts : List Token) (found : List Statement) : Prop where
  head : ∃ token rest, ts = token :: rest ∧ token ∉ ends
  read : ∀ b d, ts.length + 1 ≤ b → ts.length + 1 ≤ d → ∀ next rest,
    next ∉ [Token.keyword "elif", .keyword "else"] →
      statement (rules b d) (ts ++ next :: rest) = .ok (found, next :: rest)

/-- Tokens that are read as statements one behind the other. -/
inductive ReadsBody : List Token → List Statement → Prop
  | nil : ReadsBody [] []
  | cons {ts more : List Token} {found others : List Statement} (h : ReadsStatement ts found)
    (hmore : ReadsBody more others) : ReadsBody (ts ++ more) (found ++ others)

section
variable {ts : List Token} {s : Statement} {found : List Statement}

theorem ReadsBody.append {more : List Token} {others : List Statement} (h : ReadsBody ts found)
    (hmore : ReadsBody more others) : ReadsBody (ts ++ more) (found ++ others) := by
  induction h with
  | nil => exact hmore
  | cons h _ ih =>
    rw [List.append_assoc, List.append_assoc]
    exact .cons h ih

theorem ReadsStatement.body (h : ReadsStatement ts found) : ReadsBody ts found := by
  have hbody := ReadsBody.cons h .nil
  rwa [List.append_nil, List.append_nil] at hbody

/-- What begins a simple statement begins no statement with a block. -/
theorem statement_of_beginsLine {r : Rules} {token : Token} {rest : List Token}
    (h : token.BeginsLine) :
    Script.statement r (token :: rest) = simpleStatements r (token :: rest) := by
  have hne {other : Token} (hterm : other.beginsTerm = false)
      (hword : ∀ word ∈ ["return", "raise", "import", "from"], other ≠ .keyword word) :
      token ≠ other := by
    rintro rfl
    obtain ⟨hhead, -⟩ | ⟨word, rfl, hm⟩ := h
    · exact Bool.false_ne_true (hterm.symm.trans hhead)
    · exact hword word hm rfl
  generalize htokens : token :: rest = tokens
  have hfirst {other : Token} {tail : List Token} (heq : tokens = other :: tail) :
      token = other := by
    rw [heq, List.cons.injEq] at htokens
    exact htokens.1
  unfold Script.statement
  refine (bind_of_ok (a := tokens) rfl).trans ?_
  split
  all_goals first
    | exact absurd (hfirst rfl) (hne rfl (by decide))
    | rfl
    | skip
  · obtain ⟨-, hmatch⟩ | ⟨word, hword, -⟩ := h
    · exact absurd (hfirst rfl) hmatch
    · rw [hfirst rfl] at hword
      cases hword

theorem not_mem_ends {token : Token} (h : token.BeginsLine) : token ∉ ends := by
  have hterm : ends.all (fun token => !token.beginsTerm) = true := by decide
  have hwords : ∀ word ∈ ["return", "raise", "import", "from"], Token.keyword word ∉ ends := by
    decide
  obtain ⟨hhead, -⟩ | ⟨word, rfl, hword⟩ := h
  · intro hm
    have hnot := List.all_eq_true.1 hterm token hm
    rw [hhead] at hnot
    exact Bool.false_ne_true hnot
  · exact hwords word hword

/-- A line of code is a statement if it does not begin one with a block. -/
theorem ReadsLine.statement (h : ReadsLine ts s) : ReadsStatement (ts ++ [.newline]) [s] := by
  obtain ⟨token, others, rfl, hhead⟩ := h.head
  refine ⟨⟨token, others ++ [.newline], rfl, not_mem_ends hhead⟩, fun b d hb hd next rest _ => ?_⟩
  rw [List.length_append, List.length_singleton] at hb hd
  have hread := simpleStatements_of_ok (h.read b d (by omega) (by omega) (next :: rest))
  rw [List.append_assoc, List.cons_append, statement_of_beginsLine hhead]
  exact hread

/-- Behind statements comes a further one, or what ends them. -/
theorem ReadsBody.exists_cons (h : ReadsBody ts found) {last : Token} (rest : List Token)
    (hlast : last ∉ [Token.keyword "elif", .keyword "else"]) : ∃ next tail,
      ts ++ last :: rest = next :: tail ∧ next ∉ [Token.keyword "elif", .keyword "else"] := by
  cases h with
  | nil => exact ⟨last, rest, rfl, hlast⟩
  | cons hs _ =>
    obtain ⟨token, tail, rfl, htoken⟩ := hs.head
    refine ⟨token, _, rfl, fun hm => htoken ?_⟩
    exact List.mem_cons_of_mem _ (List.mem_cons_of_mem _ hm)

/-- The induction is on the statements; behind them comes what is no further part of one. -/
theorem iterate_statementStep {b d : Nat} {last next : Token} (hlast : last ∈ ends)
    (hnext : next ∉ [Token.keyword "elif", .keyword "else"]) (h : ReadsBody ts found)
    (lines : List (List Statement)) (rest : List Token) :
    ∀ bound, ts.length ≤ bound → ts.length + 1 ≤ b → ts.length + 1 ≤ d → ∃ more left,
      iterate bound (statementStep (rules b d) last) lines (ts ++ next :: rest) =
          iterate (bound - left) (statementStep (rules b d) last) (more ++ lines) (next :: rest) ∧
        left ≤ ts.length ∧ more.reverse.flatten = found := by
  induction h generalizing lines with
  | nil => exact fun bound _ _ _ => ⟨[], 0, rfl, Nat.zero_le _, rfl⟩
  | @cons ts more found others h hmore ih =>
    intro bound hbound hb hd
    rw [List.length_append] at hbound hb hd
    obtain ⟨after, tail, hrest, hnot⟩ := hmore.exists_cons rest hnext
    have hread := h.read b d (by omega) (by omega) after tail hnot
    rw [← hrest] at hread
    obtain ⟨token, others', rfl, htoken⟩ := h.head
    rw [List.length_cons] at hbound
    obtain ⟨bound, rfl⟩ := Nat.exists_eq_add_of_le' (Nat.le_trans (Nat.le_add_left 1 _)
      (Nat.le_trans (Nat.le_add_right _ _) hbound))
    have hne : token ≠ last := by
      rintro rfl
      exact htoken hlast
    obtain ⟨lines', left, hiterate, hleft, hlines⟩ :=
      ih (found :: lines) bound (by omega) (by omega) (by omega)
    refine ⟨lines' ++ [found], left + 1, ?_, ?_, ?_⟩
    · rw [List.append_assoc, List.append_assoc, Nat.add_sub_add_right]
      refine (iterate_of_ok ?_).trans hiterate
      refine (bind_of_ok (a := some found) ?_).trans rfl
      refine (bind_of_ok (nextIs_of_ne hne)).trans ?_
      exact (bind_of_ok hread).trans rfl
    · rw [List.length_append, List.length_cons]
      omega
    · rw [List.reverse_append, List.flatten_append, hlines, List.reverse_singleton,
        List.flatten_singleton]

/-- Statements are read up to the token that ends them. -/
theorem statementsUntil_of_reads {b d : Nat} (last : Token) (hlast : last ∈ [.finish, .dedent])
    (h : ReadsBody ts found) (hb : ts.length + 1 ≤ b) (hd : ts.length + 1 ≤ d)
    (rest : List Token) :
    statementsUntil (rules b d) last (ts ++ last :: rest) = .ok (found, rest) := by
  have hends : ∀ last ∈ [.finish, .dedent], last ∈ ends ∧
      last ∉ [Token.keyword "elif", .keyword "else"] := by decide
  obtain ⟨hmem, hnext⟩ := hends last hlast
  obtain ⟨lines, left, hread, hleft, rfl⟩ := iterate_statementStep hmem hnext h [] rest
    (rules b d).bound (by rw [rules_bound]; omega) hb hd
  have hstop : statementStep (rules b d) last (lines ++ []) (last :: rest) =
      .ok (none, last :: rest) :=
    (bind_of_ok (a := none) ((bind_of_ok nextIs_self).trans rfl)).trans rfl
  rw [iterate_of_none hstop, List.append_nil] at hread
  rw [statementsUntil_eq]
  exact (bind_of_ok hread).trans ((bind_of_ok expect_self).trans rfl)

end

/-! ## Blocks -/

section
variable {ts : List Token} {found : List Statement} {b d : Nat}

def notedParameter (id note : String) : Parameter Expr := { name := id, note := some (.name note) }

def notedParameters (ps : List (String × String)) : List (Parameter Expr) :=
  ps.map fun (id, note) => notedParameter id note

end

end ToolBindings.Script
