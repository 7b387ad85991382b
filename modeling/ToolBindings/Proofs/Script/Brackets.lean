import ToolBindings.Proofs.Script.Terms

/-!
# Reading what is in brackets

Parts with commas between them, and perhaps a comma behind the last one, are read up to the closing
bracket: the items of a list, the entries of a dictionary, the arguments of a call.

* `Separated`, `listed_of_separated`: parts with commas between them.
* `reads_list`, `reads_dict`: lists and dictionaries.
* `IsPrimary.member`, `IsPrimary.call`, `IsPrimary.item`: what stands behind a primary.
-/
namespace ToolBindings.Script
open Reader

/-! ## Parts with commas between them -/

/-- Tokens that are parts with commas between them, and whether there is a comma behind the last
part. -/
inductive Separated {α : Type} (Part : List Token → α → Prop) : List Token → List α → Bool → Prop
  | one {ts : List Token} {a : α} (h : Part ts a) : Separated Part ts [a] false
  | comma {ts : List Token} {a : α} (h : Part ts a) : Separated Part (ts ++ [.symbol ","]) [a] true
  | cons {ts more : List Token} {a : α} {as : List α} {trailing : Bool} (h : Part ts a)
    (hmore : Separated Part more as trailing) :
    Separated Part (ts ++ .symbol "," :: more) (a :: as) trailing

/-- One more part or comma, if one comes next. -/
def listedStep {α : Type} (begins : Token → Bool) (part : Reader α) :
    List α × Bool → Reader (Option (List α × Bool))
  | (parts, trailing) => do
    if trailing then
      if begins (← peek) then return some ((← part) :: parts, false) else return none
    else if ← accept (.symbol ",") then return some (parts, true)
    else return none

theorem listed_eq {α : Type} (bound : Nat) (begins : Token → Bool) (part : Reader α) :
    listed bound begins part = (part >>= fun first =>
      iterate bound (listedStep begins part) ([first], false) >>= fun found =>
        return (found.1.reverse, found.2)) := rfl

section
variable {α : Type} {Part : List Token → α → Prop} {begins : Token → Bool} {part : Reader α}
  {close : Token} {size : Nat} {ts rest : List Token} {as found : List α} {trailing : Bool}

/-- What is known of the parts: how they begin, and that they are read. -/
structure ArePartsOf (Part : List Token → α → Prop) (begins : Token → Bool) (part : Reader α)
    (close : Token) (size : Nat) : Prop where
  head : ∀ {ts a}, Part ts a → ∃ token rest, ts = token :: rest ∧ begins token = true
  read : ∀ {ts a}, Part ts a → ts.length ≤ size → ∀ c ∈ [.symbol ",", close], ∀ rest,
    part (ts ++ c :: rest) = .ok (a, c :: rest)
  close : begins close = false ∧ close ≠ .symbol ","

theorem listedStep_comma (found : List α) (rest : List Token) :
    listedStep begins part (found, false) (.symbol "," :: rest) = .ok (some (found, true), rest) :=
  rfl

theorem iterate_listedStep_close (h : ArePartsOf Part begins part close size) (trailing : Bool)
    (bound : Nat) : iterate bound (listedStep begins part) (found, trailing) (close :: rest) =
      .ok ((found, trailing), close :: rest) := by
  refine iterate_of_none ?_
  cases trailing with
  | true =>
    show (if begins close then _ else _ : Reader _) _ = _
    rw [if_neg (by rw [h.close.1]; exact Bool.false_ne_true)]
    rfl
  | false => exact (bind_of_ok (accept_of_ne h.close.2)).trans rfl

theorem listedStep_part (h : ArePartsOf Part begins part close size) {a : α} (ha : Part ts a)
    (hsize : ts.length ≤ size) {c : Token} (hc : c ∈ [.symbol ",", close]) :
    listedStep begins part (found, true) (ts ++ c :: rest) =
      .ok (some (a :: found, false), c :: rest) := by
  obtain ⟨token, others, rfl, hbegins⟩ := h.head ha
  show (if begins token then _ else _ : Reader _) _ = _
  rw [if_pos hbegins]
  exact (bind_of_ok (h.read ha hsize c hc rest)).trans rfl

theorem head_of_separated (h : ArePartsOf Part begins part close size)
    (hs : Separated Part ts as trailing) :
    ∃ token rest, ts = token :: rest ∧ begins token = true := by
  cases hs with
  | one ha => exact h.head ha
  | comma ha | cons ha _ =>
    obtain ⟨token, rest, rfl, hbegins⟩ := h.head ha
    exact ⟨token, _, rfl, hbegins⟩

/-- Behind a comma the parts are read up to the closing bracket; the induction is on the parts. -/
theorem iterate_listedStep (h : ArePartsOf Part begins part close size)
    (hs : Separated Part ts as trailing) (hsize : ts.length ≤ size) (found : List α)
    (rest : List Token) : ∀ bound, ts.length + 1 ≤ bound →
      iterate bound (listedStep begins part) (found, true) (ts ++ close :: rest) =
        .ok ((as.reverse ++ found, trailing), close :: rest) := by
  have hclose : close ∈ [.symbol ",", close] := by simp
  have hcomma : Token.symbol "," ∈ [.symbol ",", close] := List.mem_cons_self
  induction hs generalizing found with
  | @one ts a ha =>
    intro bound hbound
    obtain ⟨bound, rfl⟩ := Nat.exists_eq_add_of_le' (Nat.le_trans (Nat.le_add_left 1 _) hbound)
    rw [iterate_of_ok (listedStep_part h ha hsize hclose)]
    exact iterate_listedStep_close h false bound
  | @comma ts a ha =>
    intro bound hbound
    rw [List.length_append, List.length_singleton] at hbound hsize
    obtain ⟨bound, rfl⟩ := Nat.exists_eq_add_of_le' (Nat.le_trans (Nat.le_add_left 2 _) hbound)
    rw [List.append_assoc, List.singleton_append,
      iterate_of_ok (listedStep_part h ha (by omega) hcomma), iterate_of_ok (listedStep_comma _ _)]
    exact iterate_listedStep_close h true bound
  | @cons ts more a as trailing ha _ ih =>
    intro bound hbound
    rw [List.length_append, List.length_cons] at hbound hsize
    obtain ⟨bound, rfl⟩ := Nat.exists_eq_add_of_le' (Nat.le_trans (Nat.le_add_left 2 _) hbound)
    obtain ⟨token, others, rfl, -⟩ := h.head ha
    rw [List.length_cons] at hbound
    have hmore := ih (by omega) (a :: found) bound (by omega)
    have happend : token :: others ++ .symbol "," :: more ++ close :: rest =
        token :: others ++ .symbol "," :: (more ++ close :: rest) := List.append_assoc ..
    rw [happend, iterate_of_ok (listedStep_part h ha (by rw [List.length_cons] at *; omega) hcomma),
      iterate_of_ok (listedStep_comma _ _), hmore, List.reverse_cons, List.append_assoc]
    rfl

theorem listed_of_separated (h : ArePartsOf Part begins part close size)
    (hs : Separated Part ts as trailing) (hsize : ts.length ≤ size) {bound : Nat}
    (hbound : ts.length + 1 ≤ bound) (rest : List Token) :
    listed bound begins part (ts ++ close :: rest) = .ok ((as, trailing), close :: rest) := by
  have hclose : close ∈ [.symbol ",", close] := by simp
  have hcomma : Token.symbol "," ∈ [.symbol ",", close] := List.mem_cons_self
  rw [listed_eq]
  cases hs with
  | one ha =>
    exact (bind_of_ok (h.read ha hsize _ hclose rest)).trans
      ((bind_of_ok (iterate_listedStep_close h false bound)).trans rfl)
  | @comma ts a ha =>
    rw [List.length_append, List.length_singleton] at hbound hsize
    obtain ⟨bound, rfl⟩ := Nat.exists_eq_add_of_le' (Nat.le_trans (Nat.le_add_left 1 _) hbound)
    rw [List.append_assoc, List.singleton_append]
    refine (bind_of_ok (h.read ha (by omega) _ hcomma _)).trans ?_
    refine (bind_of_ok (a := ([a], true)) ?_).trans rfl
    rw [iterate_of_ok (listedStep_comma _ _)]
    exact iterate_listedStep_close h true bound
  | @cons ts more a as trailing ha hmore =>
    rw [List.length_append, List.length_cons] at hbound hsize
    obtain ⟨bound, rfl⟩ := Nat.exists_eq_add_of_le' (Nat.le_trans (Nat.le_add_left 1 _) hbound)
    have hread := iterate_listedStep h hmore (by omega) [a] rest bound (by omega)
    rw [List.append_assoc, List.cons_append]
    refine (bind_of_ok (h.read ha (by omega) _ hcomma _)).trans ?_
    refine (bind_of_ok ((iterate_of_ok (listedStep_comma _ _)).trans hread)).trans ?_
    show Except.ok (((as.reverse ++ [a]).reverse, trailing), _) = _
    rw [List.reverse_append, List.reverse_reverse]
    rfl

end

/-! ## Items -/

section
variable {ts rest : List Token} {e : Expr} {c : Token} {b d : Nat}

theorem namedExpression_eq {r : Rules} {tokens : List Token}
    (h : ∀ id rest, tokens ≠ .name id :: .symbol ":=" :: rest) : namedExpression r tokens = (do
      let value ← r.expression
      if ← nextIs (.symbol ":=") then stop
      return value : Reader Expr) tokens := by
  unfold namedExpression
  refine (bind_of_ok (a := tokens) rfl).trans ?_
  split
  · exact absurd rfl (h _ _)
  · rfl

/-- Neither an assignment nor an argument by name comes next. -/
theorem append_ne_of_reads (h : Reads ts e) {sign : String} (hsign : sign ∈ [":=", "="])
    (hne : c ≠ .symbol sign) (id : String) (rest after : List Token) :
    ts ++ c :: rest ≠ .name id :: .symbol sign :: after := by
  obtain ⟨token, others, rfl, -⟩ := h.head
  intro heq
  rw [List.cons_append, List.cons.injEq] at heq
  cases others with
  | nil => exact hne (List.cons.inj heq.2).1
  | cons second others =>
    refine h.plain id (second :: others) (by rw [heq.1]) sign hsign ?_
    rw [(List.cons.inj heq.2).1]
    rfl

theorem namedExpression_of_reads (h : Reads ts e) (hb : ts.length + 1 ≤ b)
    (hd : ts.length + 1 ≤ d) (hc : c ∈ closers) (rest : List Token) :
    namedExpression (rules b d) (ts ++ c :: rest) = .ok (e, c :: rest) := by
  have hne : c ≠ .symbol ":=" := by
    rintro rfl
    simp [closers] at hc
  rw [namedExpression_eq fun id after => append_ne_of_reads h List.mem_cons_self hne id rest after]
  exact (bind_of_ok (h.read b d hb hd c hc rest)).trans ((bind_of_ok (nextIs_of_ne hne)).trans rfl)

theorem listItem_of_reads (h : Reads ts e) (hb : ts.length + 1 ≤ b) (hd : ts.length + 1 ≤ d)
    (hc : c ∈ closers) (rest : List Token) :
    listItem (rules b d) (namedExpression (rules b d)) (ts ++ c :: rest) = .ok (e, c :: rest) := by
  have hread := namedExpression_of_reads h hb hd hc rest
  obtain ⟨token, others, rfl, hhead⟩ := h.head
  exact (bind_of_ok (accept_of_ne (ne_of_beginsTerm hhead rfl))).trans hread

theorem beginsItem_of_beginsTerm {token : Token} (h : token.beginsTerm = true) :
    token.beginsItem = true := by
  rw [Token.beginsItem, beginsExpression_of_beginsTerm h, Bool.or_true]

theorem areParts_items {size : Nat} (hb : size + 1 ≤ b) (hd : size + 1 ≤ d) :
    ArePartsOf Reads Token.beginsItem (listItem (rules b d) (namedExpression (rules b d)))
      (.symbol "]") size where
  head h := by
    obtain ⟨token, rest, rfl, hhead⟩ := h.head
    exact ⟨token, rest, rfl, beginsItem_of_beginsTerm hhead⟩
  read h hsize c hc rest := by
    refine listItem_of_reads h (by omega) (by omega) ?_ rest
    have hclosers : ∀ c ∈ [.symbol ",", .symbol "]"], c ∈ closers := by decide
    exact hclosers c hc
  close := by decide

end

/-! ## Lists -/

theorem reads_list_nil : Reads [.symbol "[", .symbol "]"] (.list []) :=
  .of_atomic rfl nofun (isPlain_of_ne nofun) fun _ _ _ _ _ _ _ => rfl

/-- What comes behind the first item of a list. -/
theorem itemsUntil_of_separated {b d : Nat} {ts : List Token} {es : List Expr} {trailing : Bool}
    (hb : ts.length + 1 ≤ b) (hd : ts.length + 1 ≤ d) (h : Separated Reads ts es trailing)
    (first : Expr) (rest : List Token) :
    itemsUntil (rules b d) "]" first (.symbol "," :: (ts ++ .symbol "]" :: rest)) =
      .ok (first :: es, rest) := by
  have hparts := areParts_items hb hd
  have hlisted := listed_of_separated hparts h (Nat.le_refl _)
    (show ts.length + 1 ≤ (rules b d).bound by rw [rules_bound]; omega) rest
  obtain ⟨token, others, rfl, hbegins⟩ := head_of_separated hparts h
  unfold itemsUntil
  refine (bind_of_ok accept_self).trans ((bind_of_ok peek_cons).trans ?_)
  show (if token.beginsItem = true then _ else _ : Reader _) _ = _
  rw [if_pos hbegins]
  exact (bind_of_ok hlisted).trans ((bind_of_ok expect_self).trans rfl)

/-- Behind the first item of a list come the others. -/
theorem bracketed_of_item {b d : Nat} {ts : List Token} {e : Expr} {c : Token} (h : Reads ts e)
    (hb : ts.length + 1 ≤ b) (hd : ts.length + 1 ≤ d) (hc : c ∈ [.symbol ",", .symbol "]"])
    (rest : List Token) :
    bracketed (rules b d) (ts ++ c :: rest) =
      (itemsUntil (rules b d) "]" e >>= fun es => pure (.list es)) (c :: rest) := by
  have hclauses : ∀ c ∈ [Token.symbol ",", .symbol "]"], c ∈ closers ∧ beginsClause c = false := by
    decide
  obtain ⟨hcloser, hclause⟩ := hclauses c hc
  have hread := listItem_of_reads h hb hd hcloser rest
  obtain ⟨token, others, rfl, hhead⟩ := h.head
  unfold bracketed
  refine (bind_of_ok (accept_of_ne (ne_of_beginsTerm hhead rfl))).trans ?_
  refine (bind_of_ok hread).trans ((bind_of_ok peek_cons).trans ?_)
  show (if beginsClause c = true then _ else _ : Reader _) _ = _
  rw [if_neg (by rw [hclause]; exact Bool.false_ne_true)]

theorem reads_list {ts : List Token} {es : List Expr} {trailing : Bool}
    (h : Separated Reads ts es trailing) :
    Reads (.symbol "[" :: (ts ++ [.symbol "]"])) (.list es) := by
  refine .of_atomic rfl nofun (isPlain_of_ne nofun) fun b d hb hd c hc after => ?_
  rw [List.length_cons, List.length_append, List.length_singleton] at hb hd
  have hbracketed : bracketed (rules b d) (ts ++ .symbol "]" :: c :: after) =
      .ok (.list es, c :: after) := by
    cases h with
    | one he => exact (bracketed_of_item he (by omega) (by omega) (by decide) _).trans rfl
    | comma he =>
      rw [List.length_append, List.length_singleton] at hb hd
      rw [List.append_assoc]
      exact (bracketed_of_item he (by omega) (by omega) (by decide) _).trans rfl
    | @cons _ _ e _ _ he hmore =>
      rw [List.length_append, List.length_cons] at hb hd
      have huntil := itemsUntil_of_separated (b := b) (d := d) (by omega) (by omega) hmore e
        (c :: after)
      rw [List.append_assoc]
      refine (bracketed_of_item he (by omega) (by omega) (by decide) _).trans ?_
      exact (bind_of_ok huntil).trans rfl
  rw [List.cons_append, List.append_assoc]
  exact (bind_of_ok peek_cons).trans ((bind_of_ok (a := ()) rfl).trans hbracketed)

/-! ## Dictionaries -/

/-- Tokens that are an entry of a dictionary with a text as its key. -/
inductive ReadsEntry : List Token → Option Expr × Expr → Prop
  | mk {body : List Char} {key : String} {ts : List Token} {e : Expr}
    (hkey : unescaped? false body = some key.toList) (h : Reads ts e) :
    ReadsEntry (.text {} body :: .symbol ":" :: ts) (some (.constant (.text key)), e)

section
variable {b d : Nat} {rest : List Token}

/-- Whether an entry of a dictionary may begin with a token. -/
def beginsEntry (token : Token) : Bool := token == .symbol "**" || token.beginsExpression

theorem areParts_entries {size : Nat} (hb : size + 1 ≤ b) (hd : size + 1 ≤ d) :
    ArePartsOf ReadsEntry beginsEntry (dictEntry (rules b d)) (.symbol "\x7d") size where
  head h := by
    cases h
    exact ⟨_, _, rfl, rfl⟩
  read h hsize c hc rest := by
    have hclosers : ∀ c ∈ [.symbol ",", .symbol "\x7d"], c ∈ closers := by decide
    cases h with
    | @mk body key ts e hkey h =>
      simp only [List.length_cons] at hsize
      unfold dictEntry
      refine (bind_of_ok (a := false) rfl).trans ?_
      have hread := (reads_text hkey).read b d (by simp; omega) (by simp; omega) (.symbol ":")
        (by decide) (ts ++ c :: rest)
      refine (bind_of_ok hread).trans ((bind_of_ok expect_self).trans ?_)
      exact (bind_of_ok (h.read b d (by omega) (by omega) c (hclosers c hc) rest)).trans rfl
  close := by decide

def entriesBehind (r : Rules) (first : Option Expr × Expr) : Reader Expr := do
  let mut entries := [first]
  if ← accept (.symbol ",") then
    if beginsEntry (← peek) then
      entries := first :: (← listed r.bound beginsEntry (dictEntry r)).1
  expect (.symbol "\x7d")
  return .dict entries

theorem entriesBehind_of_separated {ts : List Token} {entries : List (Option Expr × Expr)}
    {trailing : Bool} (hb : ts.length + 1 ≤ b) (hd : ts.length + 1 ≤ d)
    (h : Separated ReadsEntry ts entries trailing) (first : Option Expr × Expr)
    (rest : List Token) :
    entriesBehind (rules b d) first (.symbol "," :: (ts ++ .symbol "\x7d" :: rest)) =
      .ok (.dict (first :: entries), rest) := by
  have hparts := areParts_entries hb hd
  have hlisted := listed_of_separated hparts h (Nat.le_refl _)
    (show ts.length + 1 ≤ (rules b d).bound by rw [rules_bound]; omega) rest
  obtain ⟨token, others, rfl, hbegins⟩ := head_of_separated hparts h
  unfold entriesBehind
  refine (bind_of_ok accept_self).trans ((bind_of_ok peek_cons).trans ?_)
  show (if beginsEntry token = true then _ else _ : Reader _) _ = _
  rw [if_pos hbegins]
  exact (bind_of_ok hlisted).trans ((bind_of_ok expect_self).trans rfl)

/-- A dictionary is told from a set by the colon behind its first key. -/
theorem braced_of_entry {ts : List Token} {entry : Option Expr × Expr} {c : Token}
    (h : ReadsEntry ts entry) (hb : ts.length + 1 ≤ b) (hd : ts.length + 1 ≤ d)
    (hc : c ∈ [.symbol ",", .symbol "\x7d"]) (rest : List Token) :
    braced (rules b d) (ts ++ c :: rest) = entriesBehind (rules b d) entry (c :: rest) := by
  have hclosers : ∀ c ∈ [.symbol ",", .symbol "\x7d"], c ∈ closers ∧ beginsClause c = false := by
    decide
  obtain ⟨hcloser, hclause⟩ := hclosers c hc
  cases h with
  | @mk body key ts e hkey h =>
    simp only [List.length_cons] at hb hd
    have hfirst := listItem_of_reads (reads_text hkey) (b := b) (d := d) (by simp; omega)
      (by simp; omega) (c := .symbol ":") (by decide) (ts ++ c :: rest)
    have hvalue := h.read b d (by omega) (by omega) c hcloser rest
    unfold braced
    refine (bind_of_ok (a := false) rfl).trans ((bind_of_ok (a := false) rfl).trans ?_)
    refine (bind_of_ok (a := false) rfl).trans ((bind_of_ok (a := false) rfl).trans ?_)
    refine (bind_of_ok hfirst).trans ((bind_of_ok accept_self).trans ?_)
    refine (bind_of_ok hvalue).trans ((bind_of_ok peek_cons).trans ?_)
    show (if beginsClause c = true then _ else _ : Reader _) _ = _
    rw [if_neg (by rw [hclause]; exact Bool.false_ne_true)]
    rfl

end

theorem reads_dict_nil : Reads [.symbol "\x7b", .symbol "\x7d"] (.dict []) :=
  .of_atomic rfl nofun (isPlain_of_ne nofun) fun _ _ _ _ _ _ _ => rfl

theorem reads_dict {ts : List Token} {entries : List (Option Expr × Expr)} {trailing : Bool}
    (h : Separated ReadsEntry ts entries trailing) :
    Reads (.symbol "\x7b" :: (ts ++ [.symbol "\x7d"])) (.dict entries) := by
  refine .of_atomic rfl nofun (isPlain_of_ne nofun) fun b d hb hd c hc after => ?_
  rw [List.length_cons, List.length_append, List.length_singleton] at hb hd
  have hbraced : braced (rules b d) (ts ++ .symbol "\x7d" :: c :: after) =
      .ok (.dict entries, c :: after) := by
    cases h with
    | one he => exact (braced_of_entry he (by omega) (by omega) (by decide) _).trans rfl
    | comma he =>
      rw [List.length_append, List.length_singleton] at hb hd
      rw [List.append_assoc]
      exact (braced_of_entry he (by omega) (by omega) (by decide) _).trans rfl
    | cons he hmore =>
      rw [List.length_append, List.length_cons] at hb hd
      rw [List.append_assoc]
      refine (braced_of_entry he (by omega) (by omega) (by decide) _).trans ?_
      exact entriesBehind_of_separated (by omega) (by omega) hmore _ _
  rw [List.cons_append, List.append_assoc]
  exact (bind_of_ok peek_cons).trans ((bind_of_ok (a := ()) rfl).trans hbraced)

/-! ## Behind a primary -/

section
variable {ts : List Token} {e : Expr}

/-- One more step behind a primary makes a longer one. -/
theorem IsPrimary.step (h : IsPrimary ts e) {more : List Token} {found : Expr} (hmore : more ≠ [])
    (hplain : IsPlain (ts ++ more))
    (hstep : ∀ b d, ts.length + more.length + 1 ≤ b → ts.length + more.length ≤ d + 1 → ∀ rest,
      primaryStep (rules b d) e (more ++ rest) = .ok (some found, rest)) :
    IsPrimary (ts ++ more) found where
  head := by
    obtain ⟨token, rest, rfl, hhead⟩ := h.head
    exact ⟨token, rest ++ more, rfl, hhead⟩
  plain := hplain
  read := by
    obtain ⟨steps, hsteps, hread⟩ := h.read
    have hlength := List.length_pos_of_ne_nil hmore
    refine ⟨steps + 1, by rw [List.length_append]; omega, fun b d hb hd rest => ?_⟩
    rw [List.length_append] at hb hd
    rw [List.append_assoc, hread b d (by omega) (by omega)]
    have hbound : b - steps = b - (steps + 1) + 1 := by omega
    rw [hbound, iterate_of_ok (hstep b d hb hd rest)]

/-- Behind the first token of a primary comes no sign of an assignment. -/
theorem IsPrimary.plain_append (h : IsPrimary ts e) {sign : String} {more : List Token}
    (hsign : sign ∉ [":=", "="]) : IsPlain (ts ++ .symbol sign :: more) := by
  obtain ⟨token, rest, rfl, -⟩ := h.head
  rintro id tail heq other hother
  rw [List.cons_append, List.cons.injEq] at heq
  obtain ⟨rfl, rfl⟩ := heq
  cases rest with
  | nil =>
    rintro ⟨⟩
    exact hsign hother
  | cons second rest => exact h.plain id (second :: rest) rfl other hother

theorem IsPrimary.member (h : IsPrimary ts e) (name : String) :
    IsPrimary (ts ++ [.symbol ".", .name name]) (.member e name) :=
  h.step (List.cons_ne_nil _ _) (h.plain_append (by decide)) fun _ _ _ _ _ => rfl

/-! ### Arguments -/

/-- Tokens that are arguments of a call, given which may still come. A comma may stand behind the
last one. -/
inductive ReadsArguments : ArgumentStage → List Token → List (Argument Expr) → Prop
  | none {stage : ArgumentStage} : ReadsArguments stage [] []
  | plain {ts : List Token} {e : Expr} (h : Reads ts e) : ReadsArguments .any ts [.plain e]
  | plainMore {ts more : List Token} {e : Expr} {others : List (Argument Expr)} (h : Reads ts e)
    (hmore : ReadsArguments .any more others) :
    ReadsArguments .any (ts ++ .symbol "," :: more) (.plain e :: others)
  | named {stage : ArgumentStage} {ts : List Token} {id : String} {e : Expr} (h : Reads ts e)
    (hstage : stage ≠ .afterSpreadNamed) :
    ReadsArguments stage (.name id :: .symbol "=" :: ts) [.named id e]
  | namedMore {stage : ArgumentStage} {ts more : List Token} {id : String} {e : Expr}
    {others : List (Argument Expr)} (h : Reads ts e) (hstage : stage ≠ .afterSpreadNamed)
    (hmore : ReadsArguments .afterNamed more others) :
    ReadsArguments stage (.name id :: .symbol "=" :: (ts ++ .symbol "," :: more))
      (.named id e :: others)

/-- One more argument, if one comes next. -/
def argumentStep (r : Rules) : List (Argument Expr) × ArgumentStage × Bool →
    Reader (Option (List (Argument Expr) × ArgumentStage × Bool))
  | (found, stage, more) => do
    if !more || (← nextIs (.symbol ")")) then return none
    else
      let (next, stage) ← argument r stage found.isEmpty
      return some (next :: found, stage, ← accept (.symbol ","))

theorem arguments_eq (r : Rules) : arguments r =
    (iterate r.bound (argumentStep r) ([], .any, true) >>= fun found => do
      expect (.symbol ")")
      return found.1.reverse) := rfl

section
variable {b d : Nat} {rest : List Token} {c : Token} {found : List (Argument Expr)}
  {stage : ArgumentStage}

theorem argumentStep_of_argument {r : Rules} {tokens : List Token} {token : Token}
    {next : Argument Expr} {after : ArgumentStage} (htoken : token ≠ .symbol ")")
    (h : argument r stage found.isEmpty (token :: tokens) = .ok ((next, after), c :: rest)) :
    argumentStep r (found, stage, true) (token :: tokens) =
      if c = .symbol "," then .ok (some (next :: found, after, true), rest)
      else .ok (some (next :: found, after, false), c :: rest) := by
  refine (bind_of_ok (nextIs_of_ne htoken)).trans ?_
  refine (bind_of_ok h).trans ?_
  split
  · next hc =>
    subst hc
    exact (bind_of_ok accept_self).trans rfl
  · next hc => exact (bind_of_ok (accept_of_ne hc)).trans rfl

/-- An argument without a name is no sequence of arguments either. -/
theorem argument_plain (h : Reads ts e) (hb : ts.length + 1 ≤ b) (hd : ts.length + 1 ≤ d)
    (hc : c ∈ [.symbol ",", .symbol ")"]) (alone : Bool) (rest : List Token) :
    argument (rules b d) .any alone (ts ++ c :: rest) = .ok ((.plain e, .any), c :: rest) := by
  have hclosers : ∀ c ∈ [.symbol ",", .symbol ")"],
      c ∈ closers ∧ beginsClause c = false ∧ c ≠ .symbol "=" := by decide
  obtain ⟨hcloser, hclause, hequals⟩ := hclosers c hc
  have hread := namedExpression_of_reads h hb hd hcloser rest
  have hnamed := append_ne_of_reads h (by decide) hequals
  obtain ⟨token, others, rfl, hhead⟩ := h.head
  generalize htokens : token :: others ++ c :: rest = tokens at hread
  unfold argument
  refine (bind_of_ok (a := tokens) rfl).trans ?_
  split
  · exact absurd (List.cons.inj htokens).1 (ne_of_beginsTerm hhead rfl)
  · exact absurd (List.cons.inj htokens).1 (ne_of_beginsTerm hhead rfl)
  · exact absurd htokens (hnamed _ _ _)
  · refine (bind_of_ok hread).trans ((bind_of_ok peek_cons).trans ?_)
    show (if beginsClause c = true then _ else _ : Reader _) _ = _
    rw [if_neg (by rw [hclause]; exact Bool.false_ne_true)]
    rfl

theorem argument_named (h : Reads ts e) (hb : ts.length + 1 ≤ b) (hd : ts.length + 1 ≤ d)
    (hc : c ∈ [.symbol ",", .symbol ")"]) (hstage : stage ≠ .afterSpreadNamed) (id : String)
    (alone : Bool) (rest : List Token) :
    argument (rules b d) stage alone (.name id :: .symbol "=" :: (ts ++ c :: rest)) =
      .ok ((.named id e, .afterNamed), c :: rest) := by
  have hclosers : ∀ c ∈ [.symbol ",", .symbol ")"], c ∈ closers := by decide
  have hread := h.read b d hb hd c (hclosers c hc) rest
  refine (bind_of_ok (a := .name id :: .symbol "=" :: (ts ++ c :: rest)) rfl).trans ?_
  refine (bind_of_ok (a := ()) rfl).trans ((bind_of_ok hread).trans ?_)
  cases stage with
  | any | afterNamed => rfl
  | afterSpreadNamed => exact absurd rfl hstage

theorem iterate_argumentStep_close (stage : ArgumentStage) (more : Bool) (bound : Nat) :
    iterate bound (argumentStep (rules b d)) (found, stage, more) (.symbol ")" :: rest) =
      .ok ((found, stage, more), .symbol ")" :: rest) := by
  refine iterate_of_none ?_
  cases more <;> rfl

/-- The induction is on the arguments that are still to come. -/
theorem iterate_argumentStep {args : List (Argument Expr)} (h : ReadsArguments stage ts args)
    (found : List (Argument Expr)) (rest : List Token) :
    ∀ bound, ts.length + 1 ≤ bound → ts.length + 1 ≤ b → ts.length + 1 ≤ d → ∃ after more,
      iterate bound (argumentStep (rules b d)) (found, stage, true) (ts ++ .symbol ")" :: rest) =
        .ok ((args.reverse ++ found, after, more), .symbol ")" :: rest) := by
  have hclose : Token.symbol ")" ∈ [.symbol ",", .symbol ")"] := by decide
  have hcomma : Token.symbol "," ∈ [.symbol ",", .symbol ")"] := by decide
  induction h generalizing found with
  | @none stage =>
    exact fun bound _ _ _ => ⟨stage, true, iterate_argumentStep_close stage true bound⟩
  | @plain ts e h =>
    intro bound hbound hb hd
    obtain ⟨bound, rfl⟩ := Nat.exists_eq_add_of_le' (Nat.le_trans (Nat.le_add_left 1 _) hbound)
    have hread := argument_plain h hb hd hclose found.isEmpty rest
    obtain ⟨token, others, rfl, hhead⟩ := h.head
    refine ⟨.any, false, (iterate_of_ok (argumentStep_of_argument (ne_of_beginsTerm hhead rfl)
      hread)).trans ?_⟩
    exact iterate_argumentStep_close .any false bound
  | @plainMore ts more e others h _ ih =>
    intro bound hbound hb hd
    rw [List.length_append, List.length_cons] at hbound hb hd
    obtain ⟨bound, rfl⟩ := Nat.exists_eq_add_of_le' (Nat.le_trans (Nat.le_add_left 1 _) hbound)
    have hread := argument_plain (b := b) (d := d) h (by omega) (by omega) hcomma found.isEmpty
      (more ++ .symbol ")" :: rest)
    obtain ⟨token, tail, rfl, hhead⟩ := h.head
    rw [List.length_cons] at hbound
    obtain ⟨after, behind, hmore⟩ := ih (.plain e :: found) bound (by omega) (by omega) (by omega)
    refine ⟨after, behind, ?_⟩
    rw [List.append_assoc]
    refine (iterate_of_ok (argumentStep_of_argument (ne_of_beginsTerm hhead rfl) hread)).trans ?_
    rw [hmore, List.reverse_cons, List.append_assoc]
    rfl
  | @named stage ts id e h hstage =>
    intro bound hbound hb hd
    rw [List.length_cons, List.length_cons] at hb hd
    obtain ⟨bound, rfl⟩ := Nat.exists_eq_add_of_le' (Nat.le_trans (Nat.le_add_left 1 _) hbound)
    have hread := argument_named (b := b) (d := d) h (by omega) (by omega) hclose hstage id
      found.isEmpty rest
    have hname : Token.name id ≠ .symbol ")" := nofun
    rw [List.cons_append, List.cons_append]
    refine ⟨.afterNamed, false, (iterate_of_ok (argumentStep_of_argument hname hread)).trans ?_⟩
    exact iterate_argumentStep_close .afterNamed false bound
  | @namedMore stage ts more id e others h hstage _ ih =>
    intro bound hbound hb hd
    simp only [List.length_append, List.length_cons] at hbound hb hd
    obtain ⟨bound, rfl⟩ := Nat.exists_eq_add_of_le' (Nat.le_trans (Nat.le_add_left 1 _) hbound)
    have hread := argument_named (b := b) (d := d) h (by omega) (by omega) hcomma hstage id
      found.isEmpty (more ++ .symbol ")" :: rest)
    have hname : Token.name id ≠ .symbol ")" := nofun
    obtain ⟨after, behind, hmore⟩ :=
      ih (.named id e :: found) bound (by omega) (by omega) (by omega)
    refine ⟨after, behind, ?_⟩
    rw [List.cons_append, List.cons_append, List.append_assoc]
    refine (iterate_of_ok (argumentStep_of_argument hname hread)).trans ?_
    rw [hmore, List.reverse_cons, List.append_assoc]
    rfl

theorem arguments_of_reads {args : List (Argument Expr)} (h : ReadsArguments .any ts args)
    (hb : ts.length + 1 ≤ b) (hd : ts.length + 1 ≤ d) (rest : List Token) :
    arguments (rules b d) (ts ++ .symbol ")" :: rest) = .ok (args, rest) := by
  obtain ⟨after, more, hread⟩ := iterate_argumentStep h [] rest (rules b d).bound
    (by rw [rules_bound]; omega) hb hd
  rw [arguments_eq]
  refine (bind_of_ok hread).trans ((bind_of_ok expect_self).trans ?_)
  rw [List.append_nil, List.reverse_reverse]
  rfl

end

theorem IsPrimary.call (h : IsPrimary ts e) {more : List Token} {args : List (Argument Expr)}
    (hargs : ReadsArguments .any more args) :
    IsPrimary (ts ++ .symbol "(" :: (more ++ [.symbol ")"])) (.call e args) := by
  refine h.step (List.cons_ne_nil _ _) (h.plain_append (by decide)) fun b d hb hd rest => ?_
  simp only [List.length_append, List.length_cons, List.length_nil] at hb hd
  obtain ⟨token, others, rfl, -⟩ := h.head
  simp only [List.length_cons] at hb hd
  have hread := arguments_of_reads hargs (b := b) (d := d) (by omega) (by omega) rest
  rw [List.cons_append, List.append_assoc]
  refine (bind_of_ok (a := false) rfl).trans ((bind_of_ok (a := true) rfl).trans ?_)
  exact (bind_of_ok hread).trans rfl

/-! ### Indices -/

/-- Whether a part of an index may begin with a token. -/
def beginsIndex (token : Token) : Bool := token == .symbol ":" || token.beginsItem

theorem areParts_index {b d size : Nat} (hb : size + 1 ≤ b) (hd : size + 1 ≤ d) :
    ArePartsOf Reads beginsIndex (indexPart (rules b d)) (.symbol "]") size where
  head h := by
    obtain ⟨token, rest, rfl, hhead⟩ := h.head
    exact ⟨token, rest, rfl, by
      rw [beginsIndex, beginsItem_of_beginsTerm hhead, Bool.or_true]⟩
  read := by
    intro ts e h hsize c hc rest
    have hclosers : ∀ c ∈ [.symbol ",", .symbol "]"],
        c ∈ closers ∧ c ≠ .symbol ":" ∧ c ≠ .symbol ":=" := by decide
    obtain ⟨hcloser, hcolon, hassign⟩ := hclosers c hc
    have hread := h.read b d (by omega) (by omega) c hcloser rest
    have hplain := append_ne_of_reads h (by decide) hassign
    obtain ⟨token, others, rfl, hhead⟩ := h.head
    have hassignment : beginsAssignment (token :: others ++ c :: rest) =
        .ok (false, token :: others ++ c :: rest) := by
      generalize htokens : token :: others ++ c :: rest = tokens
      unfold beginsAssignment
      refine (bind_of_ok (a := tokens) rfl).trans ?_
      split
      · exact absurd htokens (hplain _ _ _)
      · rfl
    unfold indexPart
    refine (bind_of_ok (accept_of_ne (ne_of_beginsTerm hhead rfl))).trans ?_
    refine (bind_of_ok hassignment).trans ?_
    have hindex : (peek >>= fun next => if next.beginsExpression then
        (rules b d).expression >>= fun e => pure (some e) else pure none : Reader _)
          (token :: others ++ c :: rest) = .ok (some e, c :: rest) := by
      refine (bind_of_ok peek_cons).trans ?_
      rw [if_pos (beginsExpression_of_beginsTerm hhead)]
      exact (bind_of_ok hread).trans rfl
    refine (bind_of_ok hindex).trans ((bind_of_ok (accept_of_ne hcolon)).trans ?_)
    exact (bind_of_ok (nextIs_of_ne hassign)).trans rfl
  close := by decide

def indexExpr : List Expr → Bool → Expr
  | [.spread items], _ => .tuple [.spread items]
  | [part], false => part
  | parts, _ => .tuple parts

theorem index_of_separated {b d : Nat} {more : List Token} {es : List Expr} {trailing : Bool}
    (h : Separated Reads more es trailing) (hb : more.length + 1 ≤ b) (hd : more.length + 1 ≤ d)
    (rest : List Token) :
    index (rules b d) (more ++ .symbol "]" :: rest) = .ok (indexExpr es trailing, rest) := by
  have hlisted := listed_of_separated (areParts_index hb hd) h (Nat.le_refl _)
    (show more.length + 1 ≤ (rules b d).bound by rw [rules_bound]; omega) rest
  unfold index
  refine (bind_of_ok hlisted).trans ((bind_of_ok expect_self).trans ?_)
  obtain _ | ⟨e, _ | ⟨second, es⟩⟩ := es
  · rfl
  · cases e <;> cases trailing <;> rfl
  · cases e <;> cases trailing <;> rfl

theorem IsPrimary.item (h : IsPrimary ts e) {more : List Token} {es : List Expr} {trailing : Bool}
    (hindex : Separated Reads more es trailing) :
    IsPrimary (ts ++ .symbol "[" :: (more ++ [.symbol "]"])) (.item e (indexExpr es trailing)) := by
  refine h.step (List.cons_ne_nil _ _) (h.plain_append (by decide)) fun b d hb hd rest => ?_
  simp only [List.length_append, List.length_cons, List.length_nil] at hb hd
  obtain ⟨token, others, rfl, -⟩ := h.head
  simp only [List.length_cons] at hb hd
  have hread := index_of_separated hindex (b := b) (d := d) (by omega) (by omega) rest
  rw [List.cons_append, List.append_assoc]
  refine (bind_of_ok (a := false) rfl).trans ((bind_of_ok (a := false) rfl).trans ?_)
  refine (bind_of_ok (a := true) rfl).trans ?_
  exact (bind_of_ok hread).trans rfl

end

end ToolBindings.Script
