import ToolBindings.Proofs.Script.Reading

/-!
# Reading expressions

An expression is read up to the token that ends it, which is a comma, a closing bracket, a colon, an
equals sign or the end of a line. Each form of expression is read if its parts are.

* `expression_of_factor`, `signed_of_primary`: none of the operators comes next.
* `Reads`, `IsPrimary`: tokens that are read as an expression.
* `reads_name`, `reads_text`, `reads_number`, `reads_negative`: expressions without parts.
-/
namespace ToolBindings.Script
open Reader

/-! ## The next token -/

section
variable {token other : Token} {rest : List Token}

theorem nextIs_self : nextIs token (token :: rest) = .ok (true, token :: rest) := by
  show Except.ok (token == token, _) = _
  rw [beq_self_eq_true]

theorem nextIs_of_ne (h : other ≠ token) :
    nextIs token (other :: rest) = .ok (false, other :: rest) := by
  show Except.ok (other == token, _) = _
  rw [beq_eq_false_iff_ne.2 h]

theorem accept_self : accept token (token :: rest) = .ok (true, rest) :=
  bind_of_ok nextIs_self

theorem accept_of_ne (h : other ≠ token) :
    accept token (other :: rest) = .ok (false, other :: rest) :=
  bind_of_ok (nextIs_of_ne h)

theorem expect_self : expect token (token :: rest) = .ok ((), rest) :=
  bind_of_ok accept_self

theorem peek_cons : peek (token :: rest) = .ok (token, token :: rest) := rfl

end

/-- The tokens in front of which an expression ends. -/
def closers : List Token :=
  [.symbol ",", .symbol ")", .symbol "]", .symbol "\x7d", .symbol ":", .symbol "=", .newline]

/-- Whether an expression without an operator in front begins with a token. -/
def Token.beginsTerm : Token → Bool
  | name _ | number _ | text .. => true
  | keyword word => ["None", "True", "False"].contains word
  | symbol sign => ["(", "[", "\x7b", "-"].contains sign
  | _ => false

theorem beginsExpression_of_beginsTerm {token : Token} (h : token.beginsTerm = true) :
    token.beginsExpression = true := by
  cases token with
  | keyword word =>
    have hwords : ∀ word ∈ ["None", "True", "False"], (Token.keyword word).beginsExpression := by
      decide
    exact hwords word (List.contains_iff_mem.1 h)
  | symbol sign =>
    have hsigns : ∀ sign ∈ ["(", "[", "\x7b", "-"], (Token.symbol sign).beginsExpression := by
      decide
    exact hsigns sign (List.contains_iff_mem.1 h)
  | name _ | number _ | text _ _ => rfl
  | _ => cases h

theorem ne_of_beginsTerm {token other : Token} (h : token.beginsTerm = true)
    (hother : other.beginsTerm = false) : token ≠ other := by
  rintro rfl
  exact Bool.false_ne_true (hother.symm.trans h)

/-! ## Operators -/

section
variable {r : Rules} {ts rest : List Token} {c : Token} {e : Expr} {bound : Nat}

/-- No operator is among the tokens that end an expression. -/
theorem chain_of_ok {ops : List (String × BinaryOp)} {operand : Reader Expr}
    (hops : ops ∈ operators) (hc : c ∈ closers) (h : operand ts = .ok (e, c :: rest)) :
    chain (bound + 1) ops operand ts = .ok (e, c :: rest) := by
  have hnone (sign : String) (hsign : Token.symbol sign ∈ closers) : ops.lookup sign = none := by
    have hall :
        operators.all (fun ops => ops.all fun op => Token.symbol op.1 ∉ closers) = true := by
      decide
    have hops := List.all_eq_true.1 hall ops hops
    refine List.lookup_eq_none_iff.2 fun op hop => ?_
    have hop := of_decide_eq_true (List.all_eq_true.1 hops op hop)
    exact bne_iff_ne.2 fun heq => hop (heq ▸ hsign)
  unfold chain
  refine (bind_of_ok h).trans ((bind_of_ok (a := none) ?_).trans rfl)
  refine (bind_of_ok peek_cons).trans ?_
  cases c with
  | symbol sign =>
    simp only [hnone sign hc]
    rfl
  | _ => rfl

theorem operand_of_ok (hbound : r.bound = bound + 1) (hc : c ∈ closers)
    (h : r.factor ts = .ok (e, c :: rest)) : operand r ts = .ok (e, c :: rest) := by
  have hall (opss : List (List (String × BinaryOp))) (hopss : ∀ ops ∈ opss, ops ∈ operators)
      (inner : Reader Expr) (h : inner ts = .ok (e, c :: rest)) :
      opss.foldl (fun inner ops => chain r.bound ops inner) inner ts = .ok (e, c :: rest) := by
    induction opss generalizing inner with
    | nil => exact h
    | cons ops opss ih =>
      obtain ⟨hops, hopss⟩ := List.forall_mem_cons.1 hopss
      rw [List.foldl_cons]
      exact ih hopss _ (by rw [hbound]; exact chain_of_ok hops hc h)
  exact hall operators (fun _ => id) r.factor h

theorem many_of_none {α : Type} {part : Reader (Option α)} (hbound : bound ≠ 0)
    (h : part ts = .ok (none, ts)) : many bound part ts = .ok ([], ts) := by
  obtain ⟨bound, rfl⟩ := Nat.exists_eq_succ_of_ne_zero hbound
  unfold many
  refine (bind_of_ok (a := []) ?_).trans rfl
  refine (bind_of_ok (a := none) ?_).trans rfl
  exact (bind_of_ok h).trans rfl

theorem comparison_of_closer (hc : c ∈ closers) :
    comparison (c :: rest) = .ok (none, c :: rest) := by
  simp only [closers, List.mem_cons, List.not_mem_nil, or_false] at hc
  obtain rfl | rfl | rfl | rfl | rfl | rfl | rfl := hc <;> rfl

theorem compared_of_ok (hbound : r.bound = bound + 1) (hc : c ∈ closers)
    (h : r.factor ts = .ok (e, c :: rest)) : compared r ts = .ok (e, c :: rest) := by
  unfold compared
  refine (bind_of_ok (operand_of_ok hbound hc h)).trans ?_
  refine (bind_of_ok (many_of_none (by rw [hbound]; exact Nat.succ_ne_zero _) ?_)).trans rfl
  exact (bind_of_ok (comparison_of_closer hc)).trans rfl

theorem joinedBy_of_ok {word : String} {join : List Expr → Expr} {part : Reader Expr}
    (hbound : bound ≠ 0) (hc : c ∈ closers) (h : part ts = .ok (e, c :: rest)) :
    joinedBy bound word join part ts = .ok (e, c :: rest) := by
  have hne : c ≠ .keyword word := by
    rintro rfl
    simp [closers] at hc
  unfold joinedBy
  refine (bind_of_ok h).trans ((bind_of_ok (many_of_none hbound ?_)).trans rfl)
  exact (bind_of_ok (accept_of_ne hne)).trans rfl

variable {token : Token}

theorem inversion_of_ok (hbound : r.bound = bound + 1) (hhead : token ≠ .keyword "not")
    (hc : c ∈ closers) (h : r.factor (token :: ts) = .ok (e, c :: rest)) :
    inversion r (token :: ts) = .ok (e, c :: rest) := by
  unfold inversion
  refine (bind_of_ok (many_of_none (by rw [hbound]; exact Nat.succ_ne_zero _) ?_)).trans ?_
  · exact (bind_of_ok (accept_of_ne hhead)).trans rfl
  · exact (bind_of_ok (compared_of_ok hbound hc h)).trans rfl

theorem disjunction_of_ok (hbound : r.bound = bound + 1) (hhead : token ≠ .keyword "not")
    (hc : c ∈ closers) (h : r.factor (token :: ts) = .ok (e, c :: rest)) :
    disjunction r (token :: ts) = .ok (e, c :: rest) := by
  have hne : r.bound ≠ 0 := by rw [hbound]; exact Nat.succ_ne_zero _
  exact joinedBy_of_ok hne hc (joinedBy_of_ok hne hc (inversion_of_ok hbound hhead hc h))

/-- What is read as an operand is read as an expression, if no operator comes next. -/
theorem expression_of_factor (hbound : r.bound = bound + 1) (hhead : token.beginsTerm = true)
    (hc : c ∈ closers) (h : r.factor (token :: ts) = .ok (e, c :: rest)) :
    expression r (token :: ts) = .ok (e, c :: rest) := by
  have hif : c ≠ .keyword "if" := by
    rintro rfl
    simp [closers] at hc
  unfold expression
  refine (bind_of_ok (accept_of_ne (ne_of_beginsTerm hhead rfl))).trans ?_
  refine (bind_of_ok (disjunction_of_ok hbound (ne_of_beginsTerm hhead rfl) hc h)).trans ?_
  exact (bind_of_ok (accept_of_ne hif)).trans rfl

theorem signed_of_primary (hhead : token.beginsTerm = true) (hminus : token ≠ .symbol "-")
    (hc : c ∈ closers) (h : primary r (token :: ts) = .ok (e, c :: rest)) :
    signed r (token :: ts) = .ok (e, c :: rest) := by
  have hpower : c ≠ .symbol "**" := by
    rintro rfl
    simp [closers] at hc
  unfold signed
  refine (bind_of_ok peek_cons).trans ?_
  split
  · exact absurd rfl (ne_of_beginsTerm hhead rfl)
  · exact absurd rfl hminus
  · exact absurd rfl (ne_of_beginsTerm hhead rfl)
  · refine (bind_of_ok (accept_of_ne (ne_of_beginsTerm hhead rfl))).trans ?_
    exact (bind_of_ok h).trans ((bind_of_ok (accept_of_ne hpower)).trans rfl)

/-- One more step behind what has been read of a primary. -/
def primaryStep (r : Rules) (object : Expr) : Reader (Option Expr) := do
  if ← accept (.symbol ".") then return some (.member object (← anyName))
  else if ← accept (.symbol "(") then return some (.call object (← arguments r))
  else if ← accept (.symbol "[") then return some (.item object (← index r))
  else return none

theorem primary_of_atomic {after : List Token} (h : atomic r ts = .ok (e, after)) :
    primary r ts = iterate r.bound (primaryStep r) e after :=
  bind_of_ok h

theorem primaryStep_of_closer (hc : c ∈ closers) :
    primaryStep r e (c :: rest) = .ok (none, c :: rest) := by
  simp only [closers, List.mem_cons, List.not_mem_nil, or_false] at hc
  obtain rfl | rfl | rfl | rfl | rfl | rfl | rfl := hc <;> rfl

theorem iterate_of_none {α : Type} {step : α → Reader (Option α)} {a : α}
    (h : step a ts = .ok (none, ts)) : iterate bound step a ts = .ok (a, ts) := by
  cases bound with
  | zero => rfl
  | succ bound => exact bind_of_ok h

end

/-! ## Whole expressions -/

theorem rules_expression (b d : Nat) : (rules b (d + 1)).expression = expression (rules b d) := rfl

theorem rules_factor (b d : Nat) : (rules b (d + 1)).factor = signed (rules b d) := rfl

/-- No sign of an assignment comes behind a name. -/
def IsPlain (ts : List Token) : Prop :=
  ∀ id rest, ts = .name id :: rest → ∀ sign ∈ [":=", "="], rest.head? ≠ some (.symbol sign)

/-- Tokens that are read as an expression, in front of what ends one. -/
structure Reads (ts : List Token) (e : Expr) : Prop where
  head : ∃ token rest, ts = token :: rest ∧ token.beginsTerm = true
  plain : IsPlain ts
  read : ∀ b d, ts.length + 1 ≤ b → ts.length + 1 ≤ d → ∀ c ∈ closers, ∀ rest,
    (rules b d).expression (ts ++ c :: rest) = .ok (e, c :: rest)

/-- Tokens that are read as a primary, behind which more of it may come. -/
structure IsPrimary (ts : List Token) (e : Expr) : Prop where
  head : ∃ token rest, ts = token :: rest ∧ token.beginsTerm = true ∧ token ≠ .symbol "-"
  plain : IsPlain ts
  read : ∃ steps < ts.length, ∀ b d, ts.length + 1 ≤ b → ts.length ≤ d + 1 → ∀ rest,
    primary (rules b d) (ts ++ rest) = iterate (b - steps) (primaryStep (rules b d)) e rest

section
variable {ts : List Token} {e : Expr}

theorem isPlain_of_ne {token : Token} {rest : List Token} (h : ∀ id, token ≠ .name id) :
    IsPlain (token :: rest) := by
  rintro id _ ⟨⟩
  exact absurd rfl (h id)

/-- The depth of the rules goes down by two to what is no operator. -/
theorem Reads.of_primary_eq {token : Token} {rest : List Token} (hhead : token.beginsTerm = true)
    (hminus : token ≠ .symbol "-") (hplain : IsPlain (token :: rest))
    (h : ∀ b d, (token :: rest).length + 1 ≤ b → (token :: rest).length ≤ d + 1 → ∀ c ∈ closers,
      ∀ after, primary (rules b d) (token :: rest ++ c :: after) = .ok (e, c :: after)) :
    Reads (token :: rest) e := by
  refine ⟨⟨token, rest, rfl, hhead⟩, hplain, fun b d hb hd c hc after => ?_⟩
  obtain ⟨d, rfl⟩ := Nat.exists_eq_add_of_le' (Nat.le_trans (Nat.le_add_left 2 _) hd)
  obtain ⟨n, hn⟩ : ∃ n, (rules b (d + 1)).bound = n + 1 :=
    ⟨b - 1, by rw [rules_bound]; omega⟩
  refine expression_of_factor hn hhead hc ?_
  rw [rules_factor]
  exact signed_of_primary hhead hminus hc (h b d (by omega) (by omega) c hc after)

theorem Reads.of_atomic {token : Token} {rest : List Token} (hhead : token.beginsTerm = true)
    (hminus : token ≠ .symbol "-") (hplain : IsPlain (token :: rest))
    (h : ∀ b d, (token :: rest).length + 1 ≤ b → (token :: rest).length ≤ d + 1 → ∀ c ∈ closers,
      ∀ after, atomic (rules b d) (token :: rest ++ c :: after) = .ok (e, c :: after)) :
    Reads (token :: rest) e := by
  refine Reads.of_primary_eq hhead hminus hplain fun b d hb hd c hc after => ?_
  rw [primary_of_atomic (h b d hb hd c hc after)]
  exact iterate_of_none (primaryStep_of_closer hc)

theorem IsPrimary.reads (h : IsPrimary ts e) : Reads ts e := by
  obtain ⟨token, rest, rfl, hhead, hminus⟩ := h.head
  refine Reads.of_primary_eq hhead hminus h.plain fun b d hb hd c hc after => ?_
  obtain ⟨steps, -, hread⟩ := h.read
  rw [hread b d hb hd]
  exact iterate_of_none (primaryStep_of_closer hc)

end

/-! ### Atoms -/

theorem reads_none : Reads [.keyword "None"] (.constant .none) :=
  .of_atomic rfl nofun (isPlain_of_ne nofun) fun _ _ _ _ _ _ _ => rfl

theorem reads_bool (value : Bool) :
    Reads [.keyword (if value then "True" else "False")] (.constant (.bool value)) := by
  cases value <;>
    exact .of_atomic rfl nofun (isPlain_of_ne nofun) fun _ _ _ _ _ _ _ => rfl

theorem reads_number (value : Numeral) : Reads [.number value] (.constant (.number value)) :=
  .of_atomic rfl nofun (isPlain_of_ne nofun) fun _ _ _ _ _ _ _ => rfl

/-- A sign in front takes one more depth of the rules. -/
theorem reads_negative (value : Numeral) :
    Reads [.symbol "-", .number value] (.unary .minus (.constant (.number value))) := by
  refine ⟨⟨_, _, rfl, rfl⟩, isPlain_of_ne nofun, fun b d hb hd c hc after => ?_⟩
  obtain ⟨d, rfl⟩ := Nat.exists_eq_add_of_le' (Nat.le_trans (Nat.le_add_left 3 0) hd)
  obtain ⟨n, hn⟩ : ∃ n, (rules b (d + 2)).bound = n + 1 :=
    ⟨b - 1, by rw [rules_bound]; omega⟩
  refine expression_of_factor hn rfl hc ?_
  have hnumber : (rules b (d + 1)).factor (.number value :: c :: after) =
      .ok (.constant (.number value), c :: after) := by
    refine signed_of_primary rfl nofun hc ?_
    rw [primary_of_atomic rfl]
    exact iterate_of_none (primaryStep_of_closer hc)
  rw [rules_factor]
  refine (bind_of_ok peek_cons).trans ((bind_of_ok (a := ()) rfl).trans ?_)
  exact (bind_of_ok hnumber).trans rfl

/-- A text is the constant that its body stands for. -/
theorem joinedTexts?_single (r : Rules) {body : List Char} {value : String}
    (h : unescaped? false body = some value.toList) :
    joinedTexts? r [({}, body)] = some (.constant (.text value)) := by
  have hparts : partsOf? r {} body = some [.text value] := by
    show (unescaped? false body).map _ = _
    rw [h, Option.map_some, String.ofList_toList]
  simp [joinedTexts?, hparts, plainText, String.join]

/-- One more text literal, if one comes next. -/
def textStep (found : List (TextKind × List Char)) :
    Reader (Option (List (TextKind × List Char))) := do
  let next ← (do
    match ← peek with
    | .text kind body =>
      advance
      return some (kind, body)
    | _ => return none)
  return next.map (· :: found)

theorem reads_text {body : List Char} {value : String}
    (h : unescaped? false body = some value.toList) :
    Reads [.text {} body] (.constant (.text value)) := by
  refine .of_atomic rfl nofun (isPlain_of_ne nofun) fun b d hb hd c hc after => ?_
  obtain ⟨n, hn⟩ : ∃ n, (rules b d).bound = n + 1 + 1 := ⟨b - 2, by
    rw [rules_bound, List.length_singleton] at *
    omega⟩
  have hstop : textStep [({}, body)] (c :: after) = .ok (none, c :: after) := by
    refine (bind_of_ok (a := none) ?_).trans rfl
    refine (bind_of_ok peek_cons).trans ?_
    cases c with
    | text => simp [closers] at hc
    | _ => rfl
  have hmany : iterate (rules b d).bound textStep [] (.text {} body :: c :: after) =
      .ok ([({}, body)], c :: after) := by
    rw [hn, iterate_of_ok rfl]
    exact iterate_of_none hstop
  refine (bind_of_ok peek_cons).trans ?_
  refine (bind_of_ok (a := [({}, body)]) ((bind_of_ok hmany).trans rfl)).trans ?_
  rw [joinedTexts?_single _ h]
  rfl

end ToolBindings.Script
