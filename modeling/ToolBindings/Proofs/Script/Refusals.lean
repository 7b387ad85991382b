import ToolBindings.Proofs.Script.Soundness

/-!
# Expressions that are cut off

The tokens of a text end where its brackets are too deep in one another. What is open there has no
end, so an expression with such brackets in it is not read, and neither is what it stands in.

* `Fails`, `FailsBehind`: tokens that end inside an expression, and inside parts with commas.
* `Fails.list`, `Fails.dict`: what is open around such tokens.
* `failsLine_expression`, `failsLine_annotate`: the lines in which they stand.
* `statementsUntil_of_fails`, `ofText?_of_cut`: a text with a line that ends so is no script.
-/
namespace ToolBindings.Script
open Reader

/-- The token at which the tokens of a text end that is cut off. -/
def cutOff : Token := .invalid .form true

/-- Whether brackets begin with a token, or the tokens end there. -/
def Token.opens : Token → Bool
  | symbol sign => ["[", "\x7b"].contains sign
  | token => token == cutOff

theorem ne_of_opens {token other : Token} (h : token.opens = true) (hother : other.opens = false) :
    token ≠ other := by
  rintro rfl
  exact Bool.false_ne_true (hother.symm.trans h)

/-! ## Operators -/

section
variable {r : Rules} {ts : List Token} {token : Token} {reason : Stop}

theorem operand_of_error (h : r.factor ts = .error reason) : operand r ts = .error reason := by
  have hall (opss : List (List (String × BinaryOp))) (inner : Reader Expr)
      (h : inner ts = .error reason) :
      opss.foldl (fun inner ops => chain r.bound ops inner) inner ts = .error reason := by
    induction opss generalizing inner with
    | nil => exact h
    | cons ops opss ih => exact ih _ (bind_of_error h)
  exact hall operators r.factor h

/-- What is not read as an operand is not read as an expression. -/
theorem expression_of_factor_error (hbound : r.bound ≠ 0) (htoken : token.opens = true)
    (h : r.factor (token :: ts) = .error reason) :
    expression r (token :: ts) = .error reason := by
  have hinversion : inversion r (token :: ts) = .error reason := by
    unfold inversion
    refine (bind_of_ok (many_of_none hbound ?_)).trans ?_
    · exact (bind_of_ok (accept_of_ne (ne_of_opens htoken rfl))).trans rfl
    · exact bind_of_error (bind_of_error (operand_of_error h))
  unfold expression
  refine (bind_of_ok (accept_of_ne (ne_of_opens htoken rfl))).trans ?_
  exact bind_of_error (bind_of_error (bind_of_error hinversion))

theorem signed_of_atomic_error (htoken : token.opens = true)
    (h : atomic r (token :: ts) = .error reason) : signed r (token :: ts) = .error reason := by
  unfold signed
  refine (bind_of_ok peek_cons).trans ?_
  split
  · exact absurd rfl (ne_of_opens htoken rfl)
  · exact absurd rfl (ne_of_opens htoken rfl)
  · exact absurd rfl (ne_of_opens htoken rfl)
  · refine (bind_of_ok (accept_of_ne (ne_of_opens htoken rfl))).trans ?_
    exact bind_of_error (bind_of_error h)

end

/-- Tokens that end inside an expression. The number is that of the brackets that are open. -/
structure Fails (opened : Nat) (ts : List Token) : Prop where
  head : ∃ token rest, ts = token :: rest ∧ token.opens = true ∧ (token = cutOff → rest = [])
  fails : ∀ b d, ts.length + 1 ≤ b → ts.length + opened ≤ d →
    ∃ reason, (rules b d).expression ts = .error reason

/-- The depth of the rules goes down by two to what is in brackets. -/
theorem Fails.of_atomic {opened : Nat} {token : Token} {rest : List Token}
    (htoken : token.opens = true) (hcut : token = cutOff → rest = [])
    (h : ∀ b d, (token :: rest).length + 1 ≤ b → (token :: rest).length + opened ≤ d + 2 →
      ∃ reason, atomic (rules b d) (token :: rest) = .error reason) :
    Fails opened (token :: rest) := by
  refine ⟨⟨token, rest, rfl, htoken, hcut⟩, fun b d hb hd => ?_⟩
  have hbound (d : Nat) : (rules b d).bound ≠ 0 := by
    rw [rules_bound]
    exact Nat.ne_of_gt (Nat.lt_of_lt_of_le (Nat.succ_pos _) hb)
  match d with
  | 0 => exact ⟨_, rfl⟩
  | 1 =>
    rw [rules_expression]
    exact ⟨_, expression_of_factor_error (hbound 0) htoken rfl⟩
  | d + 2 =>
    obtain ⟨reason, hatomic⟩ := h b d hb hd
    refine ⟨reason, ?_⟩
    rw [rules_expression]
    refine expression_of_factor_error (hbound _) htoken ?_
    rw [rules_factor]
    exact signed_of_atomic_error htoken hatomic

theorem fails_cutOff : Fails 0 [cutOff] := .of_atomic rfl (fun _ => rfl) fun _ _ _ _ => ⟨_, rfl⟩

/-! ## Parts with commas between them -/

/-- Tokens that end inside a part, behind other parts. -/
inductive FailsBehind {α : Type} (Part : List Token → α → Prop) (Failing : List Token → Prop) :
    List Token → Prop
  | here {ts : List Token} (h : Failing ts) : FailsBehind Part Failing ts
  | behind {ts more : List Token} {a : α} (ha : Part ts a) (h : FailsBehind Part Failing more) :
    FailsBehind Part Failing (ts ++ .symbol "," :: more)

section
variable {α β : Type} {Part : List Token → α → Prop} {Failing : List Token → Prop}
  {begins : Token → Bool} {part : Reader α} {close : Token} {size : Nat} {ts : List Token}

/-- What is known of a part that is cut off: it is not read, unless nothing is left of it. -/
def AreFailing (Failing : List Token → Prop) (begins : Token → Bool) (part : Reader α)
    (size : Nat) : Prop :=
  ∀ {ts}, Failing ts → ts.length ≤ size → ts = [cutOff] ∨
    (∃ token rest, ts = token :: rest ∧ begins token = true) ∧ ∃ reason, part ts = .error reason

/-- The parts are not read to the end, unless what is left is only where the tokens end. The
induction is on the parts in front. -/
theorem iterate_listedStep_of_fails (h : ArePartsOf Part begins part close size)
    (hfailing : AreFailing Failing begins part size) (hcut : begins cutOff = false)
    (hs : FailsBehind Part Failing ts) (hsize : ts.length ≤ size) (found : List α) :
    ∀ bound, ts.length + 1 ≤ bound →
      (∃ reason, iterate bound (listedStep begins part) (found, true) ts = .error reason) ∨
        ∃ all, iterate bound (listedStep begins part) (found, true) ts = .ok (all, [cutOff]) := by
  have hcomma : Token.symbol "," ∈ [.symbol ",", close] := List.mem_cons_self
  induction hs generalizing found with
  | @here ts hts =>
    intro bound hbound
    obtain ⟨bound, rfl⟩ := Nat.exists_eq_add_of_le' (Nat.le_trans (Nat.le_add_left 1 _) hbound)
    obtain rfl | ⟨⟨token, rest, rfl, hbegins⟩, reason, hpart⟩ := hfailing hts hsize
    · refine .inr ⟨(found, true), iterate_of_none ?_⟩
      show (if begins cutOff then _ else _ : Reader _) _ = _
      rw [if_neg (by rw [hcut]; exact Bool.false_ne_true)]
      rfl
    · refine .inl ⟨reason, iterate_of_error ?_⟩
      show (if begins token then _ else _ : Reader _) _ = _
      rw [if_pos hbegins]
      exact bind_of_error hpart
  | @behind ts more a ha _ ih =>
    intro bound hbound
    rw [List.length_append, List.length_cons] at hbound hsize
    obtain ⟨bound, rfl⟩ := Nat.exists_eq_add_of_le' (Nat.le_trans (Nat.le_add_left 2 _) hbound)
    obtain ⟨token, others, rfl, -⟩ := h.head ha
    rw [List.length_cons] at hbound
    have hmore := ih (by omega) (a :: found) bound (by omega)
    rwa [iterate_of_ok (listedStep_part h ha (by rw [List.length_cons] at *; omega) hcomma),
      iterate_of_ok (listedStep_comma _ _)]

theorem head_of_fails (h : ArePartsOf Part begins part close size)
    (hfailing : AreFailing Failing begins part size) (hs : FailsBehind Part Failing ts)
    (hhead : ts ≠ [cutOff]) (hsize : ts.length ≤ size) :
    ∃ token rest, ts = token :: rest ∧ begins token = true := by
  cases hs with
  | here hts => exact ((hfailing hts hsize).resolve_left hhead).1
  | behind ha _ =>
    obtain ⟨token, rest, rfl, hbegins⟩ := h.head ha
    exact ⟨token, _, rfl, hbegins⟩

/-- What needs a further token behind the parts fails. -/
theorem listed_bind_of_fails (h : ArePartsOf Part begins part close size)
    (hfailing : AreFailing Failing begins part size) (hcut : begins cutOff = false)
    (hs : FailsBehind Part Failing ts) (hhead : ts ≠ [cutOff]) (hsize : ts.length ≤ size)
    {bound : Nat} (hbound : ts.length + 1 ≤ bound) {f : List α × Bool → Reader β}
    (hf : ∀ found, ∃ reason, f found [cutOff] = .error reason) :
    ∃ reason, (listed bound begins part >>= f) ts = .error reason := by
  have hcomma : Token.symbol "," ∈ [.symbol ",", close] := List.mem_cons_self
  rw [listed_eq]
  cases hs with
  | here hts =>
    obtain rfl | ⟨-, reason, hpart⟩ := hfailing hts hsize
    · exact absurd rfl hhead
    · exact ⟨reason, bind_of_error (bind_of_error hpart)⟩
  | @behind ts more a ha hmore =>
    rw [List.length_append, List.length_cons] at hbound hsize
    obtain ⟨bound, rfl⟩ := Nat.exists_eq_add_of_le' (Nat.le_trans (Nat.le_add_left 1 _) hbound)
    have hpart := h.read ha (by omega) _ hcomma more
    obtain ⟨reason, hrest⟩ | ⟨all, hrest⟩ :=
      iterate_listedStep_of_fails h hfailing hcut hmore (by omega) [a] bound (by omega)
    · refine ⟨reason, bind_of_error ((bind_of_ok hpart).trans (bind_of_error ?_))⟩
      exact (iterate_of_ok (listedStep_comma _ _)).trans hrest
    · obtain ⟨reason, hreason⟩ := hf (all.1.reverse, all.2)
      refine ⟨reason, (bind_of_ok ((bind_of_ok hpart).trans ?_)).trans hreason⟩
      exact (bind_of_ok ((iterate_of_ok (listedStep_comma _ _)).trans hrest)).trans rfl

end

/-! ## Lists -/

section
variable {opened b d : Nat} {ts : List Token}

theorem listItem_of_fails (h : Fails opened ts) (hb : ts.length + 1 ≤ b)
    (hd : ts.length + opened ≤ d) : ∃ reason,
      listItem (rules b d) (namedExpression (rules b d)) ts = .error reason := by
  obtain ⟨reason, hread⟩ := h.fails b d hb hd
  obtain ⟨token, rest, rfl, htoken, -⟩ := h.head
  refine ⟨reason, (bind_of_ok (accept_of_ne (ne_of_opens htoken rfl))).trans ?_⟩
  have hname (id : String) (tail : List Token) :
      token :: rest ≠ .name id :: .symbol ":=" :: tail := by
    rintro ⟨⟩
    cases htoken
  rw [if_neg Bool.false_ne_true, namedExpression_eq hname]
  exact bind_of_error hread

theorem areFailing_items {size : Nat} (hb : size + 1 ≤ b) (hd : size + opened ≤ d) :
    AreFailing (Fails opened) Token.beginsItem
      (listItem (rules b d) (namedExpression (rules b d))) size := by
  intro ts h hsize
  have hread := listItem_of_fails (b := b) (d := d) h (by omega) (by omega)
  obtain ⟨token, rest, rfl, htoken, hcut⟩ := h.head
  by_cases heq : token = cutOff
  · rw [heq, hcut heq]
    exact .inl rfl
  · have hsign : ∀ sign ∈ ["[", "\x7b"], (Token.symbol sign).beginsItem = true := by decide
    refine .inr ⟨⟨token, rest, rfl, ?_⟩, hread⟩
    cases token with
    | symbol sign => exact hsign sign (List.contains_iff_mem.1 htoken)
    | _ => exact absurd (beq_iff_eq.1 htoken) heq

theorem itemsUntil_of_fails (h : FailsBehind Reads (Fails opened) ts) (hb : ts.length + 1 ≤ b)
    (hd : ts.length + opened ≤ d) (hclose : ts.length + 1 ≤ d) (first : Expr) :
    ∃ reason, itemsUntil (rules b d) "]" first (.symbol "," :: ts) = .error reason := by
  have hparts : ArePartsOf Reads _ _ (.symbol "]") ts.length := areParts_items hb hclose
  have hfailing : AreFailing (Fails opened) _ _ ts.length := areFailing_items hb hd
  by_cases hcut : ts = [cutOff]
  · subst hcut
    exact ⟨_, (bind_of_ok accept_self).trans rfl⟩
  · obtain ⟨reason, hlisted⟩ := listed_bind_of_fails hparts hfailing rfl h hcut (Nat.le_refl _)
      (show ts.length + 1 ≤ (rules b d).bound by rwa [rules_bound])
      (f := fun found => expect (.symbol "]") >>= fun _ => pure (first :: found.1))
      fun _ => ⟨_, rfl⟩
    obtain ⟨token, others, rfl, hbegins⟩ := head_of_fails hparts hfailing h hcut (Nat.le_refl _)
    refine ⟨reason, (bind_of_ok accept_self).trans ((bind_of_ok peek_cons).trans ?_)⟩
    show (if token.beginsItem = true then _ else _ : Reader _) _ = _
    rw [if_pos hbegins]
    exact hlisted

/-- A list that is cut off is not read. -/
theorem Fails.list (h : FailsBehind Reads (Fails opened) ts) :
    Fails (opened + 1) (.symbol "[" :: ts) := by
  refine .of_atomic rfl nofun fun b d hb hd => ?_
  rw [List.length_cons] at hb hd
  suffices hbracketed : ∃ reason, bracketed (rules b d) ts = .error reason from
    hbracketed.imp fun _ hreason =>
      (bind_of_ok peek_cons).trans ((bind_of_ok (a := ()) rfl).trans hreason)
  cases h with
  | here h =>
    obtain ⟨reason, hread⟩ := listItem_of_fails (b := b) (d := d) h (by omega) (by omega)
    obtain ⟨token, rest, rfl, htoken, -⟩ := h.head
    unfold bracketed
    refine ⟨reason, (bind_of_ok (accept_of_ne (ne_of_opens htoken rfl))).trans ?_⟩
    exact bind_of_error hread
  | @behind ts more e he h =>
    rw [List.length_append, List.length_cons] at hb hd
    obtain ⟨reason, huntil⟩ :=
      itemsUntil_of_fails (b := b) (d := d) h (by omega) (by omega) (by omega) e
    refine ⟨reason, ?_⟩
    refine (bracketed_of_item he (by omega) (by omega) (by decide) more).trans ?_
    exact bind_of_error huntil

/-! ## Dictionaries -/

/-- Tokens that end inside the value of an entry. -/
inductive FailsEntry (opened : Nat) : List Token → Prop
  | mk {body : List Char} {key : String} {ts : List Token}
    (hkey : unescaped? false body = some key.toList) (h : Fails opened ts) :
    FailsEntry opened (.text {} body :: .symbol ":" :: ts)

theorem areFailing_entries {size : Nat} (hb : size + 1 ≤ b) (hd : size + opened ≤ d) :
    AreFailing (FailsEntry opened) beginsEntry (dictEntry (rules b d)) size := by
  intro ts h hsize
  cases h with
  | @mk body key ts hkey h =>
    simp only [List.length_cons] at hsize
    have hread := (reads_text hkey).read b d (by simp; omega) (by simp; omega) (.symbol ":")
      (by decide) ts
    obtain ⟨reason, hvalue⟩ := h.fails b d (by omega) (by omega)
    refine .inr ⟨⟨_, _, rfl, rfl⟩, reason, ?_⟩
    unfold dictEntry
    refine (bind_of_ok (a := false) rfl).trans ?_
    exact (bind_of_ok hread).trans ((bind_of_ok expect_self).trans (bind_of_error hvalue))

theorem ne_cutOff_of_entries (h : FailsBehind ReadsEntry (FailsEntry opened) ts) :
    ts ≠ [cutOff] := by
  cases h with
  | here h => cases h; nofun
  | behind he _ => cases he; nofun

theorem entriesBehind_of_fails (h : FailsBehind ReadsEntry (FailsEntry opened) ts)
    (hb : ts.length + 1 ≤ b) (hd : ts.length + opened ≤ d) (hclose : ts.length + 1 ≤ d)
    (first : Option Expr × Expr) :
    ∃ reason, entriesBehind (rules b d) first (.symbol "," :: ts) = .error reason := by
  have hparts : ArePartsOf ReadsEntry _ _ (.symbol "\x7d") ts.length := areParts_entries hb hclose
  have hfailing : AreFailing (FailsEntry opened) _ _ ts.length := areFailing_entries hb hd
  have hcut := ne_cutOff_of_entries h
  obtain ⟨reason, hlisted⟩ := listed_bind_of_fails hparts hfailing rfl h hcut (Nat.le_refl _)
    (show ts.length + 1 ≤ (rules b d).bound by rwa [rules_bound])
    (f := fun found => expect (.symbol "\x7d") >>= fun _ => pure (Expr.dict (first :: found.1)))
    fun _ => ⟨_, rfl⟩
  obtain ⟨token, others, rfl, hbegins⟩ := head_of_fails hparts hfailing h hcut (Nat.le_refl _)
  refine ⟨reason, ?_⟩
  unfold entriesBehind
  refine (bind_of_ok accept_self).trans ((bind_of_ok peek_cons).trans ?_)
  show (if beginsEntry token = true then _ else _ : Reader _) _ = _
  rw [if_pos hbegins]
  exact hlisted

/-- A dictionary that is cut off is not read. -/
theorem Fails.dict (h : FailsBehind ReadsEntry (FailsEntry opened) ts) :
    Fails (opened + 1) (.symbol "\x7b" :: ts) := by
  refine .of_atomic rfl nofun fun b d hb hd => ?_
  rw [List.length_cons] at hb hd
  suffices hbraced : ∃ reason, braced (rules b d) ts = .error reason from
    hbraced.imp fun _ hreason =>
      (bind_of_ok peek_cons).trans ((bind_of_ok (a := ()) rfl).trans hreason)
  cases h with
  | here h =>
    cases h with
    | @mk body key ts hkey h =>
      simp only [List.length_cons] at hb hd
      have hfirst := listItem_of_reads (reads_text hkey) (b := b) (d := d) (by simp; omega)
        (by simp; omega) (c := .symbol ":") (by decide) ts
      obtain ⟨reason, hvalue⟩ := h.fails b d (by omega) (by omega)
      refine ⟨reason, ?_⟩
      unfold braced
      refine (bind_of_ok (a := false) rfl).trans ((bind_of_ok (a := false) rfl).trans ?_)
      refine (bind_of_ok (a := false) rfl).trans ((bind_of_ok (a := false) rfl).trans ?_)
      refine (bind_of_ok hfirst).trans ((bind_of_ok accept_self).trans ?_)
      exact bind_of_error hvalue
  | @behind ts more entry he h =>
    rw [List.length_append, List.length_cons] at hb hd
    obtain ⟨reason, hbehind⟩ :=
      entriesBehind_of_fails (b := b) (d := d) h (by omega) (by omega) (by omega) entry
    exact ⟨reason, (braced_of_entry he (by omega) (by omega) (by decide) _).trans hbehind⟩

/-! ## Lines -/

theorem assigned_of_fails (h : Fails opened ts) (hb : ts.length + 1 ≤ b)
    (hd : ts.length + opened ≤ d) : ∃ reason, assigned (rules b d) ts = .error reason := by
  obtain ⟨reason, hread⟩ := h.fails b d hb hd
  obtain ⟨token, rest, rfl, htoken, -⟩ := h.head
  refine ⟨reason, (bind_of_ok (nextIs_of_ne (ne_of_opens htoken rfl))).trans ?_⟩
  refine bind_of_error (bind_of_error ?_)
  exact (bind_of_ok (accept_of_ne (ne_of_opens htoken rfl))).trans hread

/-- Tokens that end inside a line. -/
structure FailsLine (opened : Nat) (ts : List Token) : Prop where
  head : ∃ token rest, ts = token :: rest ∧ token.BeginsLine
  fails : ∀ b d, ts.length + 1 ≤ b → ts.length + opened ≤ d →
    ∃ reason, simpleStatement (rules b d) ts = .error reason

theorem failsLine_expression (h : Fails opened ts) (hcut : ts ≠ [cutOff]) :
    FailsLine opened ts := by
  obtain ⟨token, rest, rfl, htoken, hrest⟩ := h.head
  have hsign : ∀ sign ∈ ["[", "\x7b"], (Token.symbol sign).beginsTerm = true := by decide
  have hhead : token.beginsTerm = true := by
    cases token with
    | symbol sign => exact hsign sign (List.contains_iff_mem.1 htoken)
    | _ =>
      have heq := beq_iff_eq.1 htoken
      rw [heq, hrest heq] at hcut
      exact absurd rfl hcut
  refine ⟨⟨token, rest, rfl, .inl ⟨hhead, ne_of_opens htoken rfl⟩⟩, fun b d hb hd => ?_⟩
  obtain ⟨reason, hread⟩ := assigned_of_fails h hb hd
  refine ⟨reason, ?_⟩
  rw [simpleStatement_of_beginsTerm hhead]
  exact (bind_of_ok peek_cons).trans (bind_of_error hread)

/-- A script with such a line behind others is not read. -/
theorem statementsUntil_of_fails {front : List Token} {found : List Statement}
    (hfront : ReadsBody front found) (h : FailsLine opened ts)
    (hb : (front ++ ts).length + 1 ≤ b) (hd : (front ++ ts).length + opened + 1 ≤ d) :
    ∃ reason, statementsUntil (rules b d) .finish (front ++ ts) = .error reason := by
  rw [List.length_append] at hb hd
  obtain ⟨reason, hread⟩ := h.fails b d (by omega) (by omega)
  obtain ⟨token, rest, rfl, htoken⟩ := h.head
  have hmem : Token.finish ∈ ends := by decide
  have hnext : token ∉ [Token.keyword "elif", .keyword "else"] := fun hm =>
    not_mem_ends htoken (List.mem_cons_of_mem _ (List.mem_cons_of_mem _ hm))
  have hfinish : token ≠ .finish := fun heq => not_mem_ends htoken (heq ▸ hmem)
  obtain ⟨lines, left, hlines, hleft, -⟩ := iterate_statementStep hmem hnext hfront [] rest
    (rules b d).bound (b := b) (d := d) (by rw [rules_bound]; omega) (by omega) (by omega)
  have hstep : statementStep (rules b d) .finish (lines ++ []) (token :: rest) = .error reason := by
    refine bind_of_error ((bind_of_ok (nextIs_of_ne hfinish)).trans (bind_of_error ?_))
    rw [statement_of_beginsLine htoken]
    exact bind_of_error hread
  obtain ⟨n, hn⟩ : ∃ n, (rules b d).bound - left = n + 1 :=
    ⟨b - left - 1, by rw [rules_bound]; omega⟩
  refine ⟨reason, ?_⟩
  rw [statementsUntil_eq]
  refine bind_of_error (hlines.trans ?_)
  rw [hn]
  exact iterate_of_error hstep

end

/-! ## Texts -/

section
variable {lines : List Line} {front back : List Lexeme} {c : Char} {rest : List Char}
  {text : String} {body : List Token} {opened : Nat}

/-- The text is long enough for its tokens and for the brackets that are open at their end. -/
theorem length_tokens_le_of_cut (hlines : AreLines 0 lines) (hcode : IsCutCode front c back)
    (htext : text.toList = lines.flatMap Line.chars ++
        (lexemeChars (front ++ .sign c :: back) ++ '\n' :: rest) ∨
      text.toList.getLast? ≠ some '\n' ∧ text.toList ++ ['\n'] = lines.flatMap Line.chars ++
        (lexemeChars (front ++ .sign c :: back) ++ '\n' :: rest))
    (htokens : lineTokens (fun level => Line.margin level 0 ++ (lexemeTokens front ++ [cutOff])) 0
      lines = body ++ (lexemeTokens front ++ [cutOff]))
    (hopened : opened ≤ back.length) :
    (body ++ (lexemeTokens front ++ [cutOff])).length + opened + 1 ≤ text.length + 2 := by
  have hlast (level : Nat) : (Line.margin level 0 ++ (lexemeTokens front ++ [cutOff])).length ≤
      (lexemeTokens front).length + 1 + level := by
    simp only [Line.margin, if_neg (Nat.zero_ne_add_one level), Nat.sub_zero, List.length_append,
      List.length_replicate, List.length_singleton]
    omega
  have hle := length_lineTokens_le hlines hlast
  obtain ⟨hfront, hback⟩ := List.forall_mem_append.1 hcode.valid
  have hfrontChars := length_lexemeTokens_le hfront
  have hbackChars := length_le_lexemeChars (List.forall_mem_cons.1 hback).2
  have hcodeChars : (lexemeChars (front ++ .sign c :: back)).length =
      (lexemeChars front).length + (1 + (lexemeChars back).length) := by
    simp [lexemeChars, Lexeme.chars, Nat.add_comm]
  have hchars : (lines.flatMap Line.chars).length + (lexemeChars front).length + 1 + back.length ≤
      text.length := by
    obtain heq | ⟨-, heq⟩ := htext
    · have hlength := congrArg List.length heq
      rw [String.length_toList, List.length_append, List.length_append, hcodeChars] at hlength
      omega
    · have hlength := congrArg List.length heq
      rw [List.length_append, String.length_toList, List.length_append, List.length_append,
        hcodeChars, List.length_cons, List.length_nil, List.length_cons] at hlength
      omega
  rw [htokens] at hle
  omega

/-- A text with a line in which brackets are too deep is no script. -/
theorem ofText?_of_cut (lines : List Line) (hlines : AreLines 0 lines)
    (hcode : IsCutCode front c back) (hreturn : '\r' ∉ rest) (hzero : '\x00' ∉ rest)
    (hend : ('\n' :: rest).getLast? = some '\n')
    (htext : text.toList = lines.flatMap Line.chars ++
        (lexemeChars (front ++ .sign c :: back) ++ '\n' :: rest) ∨
      text.toList.getLast? ≠ some '\n' ∧ text.toList ++ ['\n'] = lines.flatMap Line.chars ++
        (lexemeChars (front ++ .sign c :: back) ++ '\n' :: rest))
    {found : List Statement} (hbody : ReadsBody body found)
    (htokens : lineTokens (fun level => Line.margin level 0 ++ (lexemeTokens front ++ [cutOff])) 0
      lines = body ++ (lexemeTokens front ++ [cutOff]))
    (hopened : opened ≤ back.length) (h : FailsLine opened (lexemeTokens front ++ [cutOff])) :
    ∃ flaw, Program.ofText? text = .error flaw := by
  have hsize := length_tokens_le_of_cut hlines hcode htext htokens hopened
  obtain ⟨reason, hread⟩ := statementsUntil_of_fails (b := text.length + 2) (d := text.length + 2)
    hbody h (by omega) (by omega)
  have hall : tokens text = body ++ (lexemeTokens front ++ [cutOff]) :=
    (tokens_cut hlines hcode hreturn hzero hend htext).trans htokens
  refine ⟨reason.verdict, ?_⟩
  unfold Program.ofText? Program.read?
  simp only [hall, hread]
  rfl

end

end ToolBindings.Script
