import ToolBindings.Proofs.Script.Lexing
import ToolBindings.Script.Reader.Statement

/-!
# Reading a statement that loads names

How readers go through the tokens of `from path import …`. What a reader does is said by what its
parts do one after the other, so that each part needs to be looked at once.

* `bind_of_ok`, `bind_of_error`, `iterate_of_ok`, …: the steps of a reader.
* `dotted_names`, `dotted_keyword`: a path of identifiers is read to its end or to its first
  keyword.
* `importFrom_keyword`: so is the path of a statement.
* `statementsUntil_from`, `statementsUntil_from_error`: a script that is nothing but the statement.
-/
namespace ToolBindings.Script
open Reader
open Text (isIdentifier isKeyword normalized)

/-! ## Steps of a reader -/

section
variable {α β : Type} {x : Reader α} {f : α → Reader β} {g : α → β} {a : α}
  {tokens rest : List Token} {reason : Stop}

theorem bind_of_ok (h : x tokens = .ok (a, rest)) : (x >>= f) tokens = f a rest := by
  show (x tokens >>= fun p => f p.1 p.2) = _
  rw [h]
  rfl

theorem bind_of_error (h : x tokens = .error reason) : (x >>= f) tokens = .error reason := by
  show (x tokens >>= fun p => f p.1 p.2) = _
  rw [h]
  rfl

theorem map_of_ok (h : x tokens = .ok (a, rest)) : (g <$> x) tokens = .ok (g a, rest) := by
  rw [map_eq_pure_bind, bind_of_ok h]
  rfl

theorem map_of_error (h : x tokens = .error reason) : (g <$> x) tokens = .error reason := by
  rw [map_eq_pure_bind, bind_of_error h]

theorem iterate_of_ok {step : α → Reader (Option α)} {bound : Nat} {next : α}
    (h : step a tokens = .ok (some next, rest)) :
    iterate (bound + 1) step a tokens = iterate bound step next rest :=
  bind_of_ok h

theorem iterate_of_error {step : α → Reader (Option α)} {bound : Nat}
    (h : step a tokens = .error reason) : iterate (bound + 1) step a tokens = .error reason :=
  bind_of_error h

end

/-! ## A path -/

def wordName (word : List Char) : String := String.ofList (normalized word)

/-- One more name behind a dot, if a dot comes next. -/
def dottedStep (found : List String) : Reader (Option (List String)) := do
  let part ← (do if ← accept (.symbol ".") then return some (← anyName) else return none)
  return part.map (· :: found)

section
variable {r : Rules} {first bad : List Char} {others before after : List (List Char)}
  {tokens : List Token} {bound : Nat}

theorem dottedStep_name (name : String) (found : List String) :
    dottedStep found (.symbol "." :: .name name :: tokens) = .ok (some (name :: found), tokens) :=
  rfl

theorem dottedStep_keyword (word : String) (found : List String) :
    dottedStep found (.symbol "." :: .keyword word :: tokens) =
      .error { rest := .keyword word :: tokens } := rfl

/-- Each step takes a dot and a name; the induction is on the names. -/
theorem iterate_dottedStep (h : ∀ part ∈ others, wordToken part = .name (wordName part))
    (found : List String) (tokens : List Token) :
    iterate (bound + others.length) dottedStep found (dottedTokens others ++ tokens) =
      iterate bound dottedStep ((others.map wordName).reverse ++ found) tokens := by
  induction others generalizing found with
  | nil => rfl
  | cons part others ih =>
    obtain ⟨hpart, hothers⟩ := List.forall_mem_cons.1 h
    have htokens : dottedTokens (part :: others) ++ tokens =
        .symbol "." :: .name (wordName part) :: (dottedTokens others ++ tokens) := by
      rw [← hpart]
      rfl
    rw [htokens, List.length_cons, ← Nat.add_assoc, iterate_of_ok (dottedStep_name _ _), ih hothers,
      List.map_cons, List.reverse_cons, List.append_assoc, List.singleton_append]

theorem dotted_eq (name : String) (tokens : List Token) : dotted r (.name name :: tokens) =
    ((fun found => (name, found.reverse)) <$> iterate r.bound dottedStep []) tokens := by
  unfold dotted many
  refine (bind_of_ok (a := name) rfl).trans ?_
  rw [map_eq_pure_bind, bind_assoc]
  rfl

/-- A path of names is read to its end. -/
theorem dotted_names (hbound : r.bound = bound + 1 + others.length)
    (h : ∀ part ∈ first :: others, wordToken part = .name (wordName part)) :
    dotted r (pathTokens first others ++ .keyword "import" :: tokens) =
      .ok ((wordName first, others.map wordName), .keyword "import" :: tokens) := by
  obtain ⟨hfirst, hothers⟩ := List.forall_mem_cons.1 h
  have hend (found : List String) : iterate (bound + 1) dottedStep found
      (.keyword "import" :: tokens) = .ok (found, .keyword "import" :: tokens) := rfl
  rw [pathTokens, hfirst, List.cons_append, dotted_eq, hbound,
    map_of_ok ((iterate_dottedStep hothers [] _).trans (hend _)), List.append_nil,
    List.reverse_reverse]

/-- A keyword behind a dot ends the reading. -/
theorem dotted_keyword (hbound : r.bound = bound + 1 + before.length)
    (h : ∀ part ∈ first :: before, wordToken part = .name (wordName part))
    (hbad : isKeyword bad = true) :
    ∃ rest, dotted r (pathTokens first (before ++ bad :: after) ++ tokens) =
      .error { rest := .keyword (String.ofList bad) :: rest } := by
  obtain ⟨hfirst, hbefore⟩ := List.forall_mem_cons.1 h
  have htokens : dottedTokens (before ++ bad :: after) ++ tokens = dottedTokens before ++
      .symbol "." :: .keyword (String.ofList bad) :: (dottedTokens after ++ tokens) := by
    rw [← wordToken_of_keyword hbad]
    simp [dottedTokens]
  refine ⟨dottedTokens after ++ tokens, ?_⟩
  rw [pathTokens, hfirst, List.cons_append, dotted_eq, hbound, htokens]
  exact map_of_error ((iterate_dottedStep hbefore [] _).trans
    (iterate_of_error (dottedStep_keyword _ _)))

end

/-! ## The path of a statement -/

/-- Where there is a keyword, there is a first one. -/
theorem exists_first_keyword {parts : List (List Char)}
    (h : ∃ part ∈ parts, isKeyword part = true) :
    ∃ before bad after, parts = before ++ bad :: after ∧ isKeyword bad = true ∧
      ∀ part ∈ before, isKeyword part = false := by
  obtain ⟨bad, hfind⟩ := Option.isSome_iff_exists.1 (List.find?_isSome.2 h)
  obtain ⟨hbad, before, after, hparts, hbefore⟩ := List.find?_eq_some_iff_append.1 hfind
  exact ⟨before, bad, after, hparts, hbad, fun part hpart => by simpa using hbefore part hpart⟩

section
variable {r : Rules} {first : List Char} {others : List (List Char)} {tokens : List Token}
  {bound : Nat}

/-- The first keyword of the path ends the reading, wherever it stands. -/
theorem importFrom_keyword (hbound : r.bound = bound + 1 + others.length)
    (hparts : ∀ part ∈ first :: others, isIdentifier part = true)
    (h : ∃ part ∈ first :: others, isKeyword part = true) :
    ∃ word rest, importFromStatement r (pathTokens first others ++ tokens) =
      .error { rest := .keyword word :: rest } := by
  have hlarge : r.bound = bound + others.length + 1 := by omega
  obtain ⟨before, bad, after, heq, hbad, hbefore⟩ := exists_first_keyword h
  have hnames : ∀ part ∈ before, wordToken part = .name (wordName part) := fun part hpart =>
    wordToken_of_name (hparts part (heq ▸ List.mem_append_left _ hpart)) (hbefore part hpart)
  cases before with
  | nil =>
    cases heq
    refine ⟨String.ofList first, dottedTokens others ++ tokens, ?_⟩
    rw [pathTokens, wordToken_of_keyword hbad]
    unfold importFromStatement
    refine (bind_of_ok (a := []) (by rw [hlarge]; rfl)).trans ?_
    rfl
  | cons name before =>
    rw [List.cons_append, List.cons.injEq] at heq
    obtain ⟨rfl, rfl⟩ := heq
    rw [List.length_append, List.length_cons] at hbound
    obtain ⟨rest, hdotted⟩ :
        ∃ rest, dotted r (pathTokens first (before ++ bad :: after) ++ tokens) =
          .error { rest := .keyword (String.ofList bad) :: rest } :=
      dotted_keyword (hbound.trans (by omega : _ = bound + 1 + after.length + 1 + before.length))
        hnames hbad
    refine ⟨String.ofList bad, rest, ?_⟩
    rw [pathTokens, hnames first List.mem_cons_self] at hdotted ⊢
    unfold importFromStatement
    refine (bind_of_ok (a := []) (by rw [hlarge]; rfl)).trans ?_
    refine (bind_of_ok rfl).trans ?_
    exact bind_of_error (map_of_error hdotted)

end

/-! ## A script of one statement -/

theorem rules_bound (bound depth : Nat) : (rules bound depth).bound = bound := by
  cases depth <;> rfl

/-- The statements of one more line, unless the token comes next that ends them. -/
def statementStep (r : Rules) (last : Token) (found : List (List Statement)) :
    Reader (Option (List (List Statement))) := do
  let line ← (do if ← nextIs last then return none else return some (← statement r))
  return line.map (· :: found)

section
variable {r : Rules} {tokens : List Token} {bound : Nat} {found : Statement} {reason : Stop}

theorem statementsUntil_eq (last : Token) : statementsUntil r last =
    (iterate r.bound (statementStep r last) [] >>= fun lines => do
      expect last
      return lines.reverse.flatten) := by
  unfold statementsUntil many
  rw [bind_assoc]
  rfl

/-- A script of one line that loads names is read if the line is. -/
theorem statementsUntil_from (hbound : r.bound = bound + 2)
    (h : importFromStatement r tokens = .ok (found, [.newline, .finish])) :
    statementsUntil r .finish (.keyword "from" :: tokens) = .ok ([found], []) := by
  have hsimple : simpleStatement r (.keyword "from" :: tokens) =
      .ok (found, [.newline, .finish]) := h
  have hline : statement r (.keyword "from" :: tokens) = .ok ([found], [.finish]) := by
    show simpleStatements r _ = _
    unfold simpleStatements
    refine (bind_of_ok hsimple).trans ?_
    rw [hbound]
    rfl
  have hstep : statementStep r .finish [] (.keyword "from" :: tokens) =
      .ok (some [[found]], [.finish]) := by
    refine (bind_of_ok (a := some [found]) ?_).trans rfl
    refine (bind_of_ok (a := false) rfl).trans ?_
    exact (bind_of_ok hline).trans rfl
  rw [statementsUntil_eq, hbound]
  exact (bind_of_ok ((iterate_of_ok hstep).trans rfl)).trans rfl

theorem statementsUntil_from_error (hbound : r.bound = bound + 1)
    (h : importFromStatement r tokens = .error reason) :
    statementsUntil r .finish (.keyword "from" :: tokens) = .error reason := by
  have hsimple : simpleStatement r (.keyword "from" :: tokens) = .error reason := h
  have hline : statement r (.keyword "from" :: tokens) = .error reason := by
    show simpleStatements r _ = _
    exact bind_of_error hsimple
  have hstep : statementStep r .finish [] (.keyword "from" :: tokens) = .error reason := by
    refine bind_of_error ?_
    refine (bind_of_ok (a := false) rfl).trans ?_
    exact bind_of_error hline
  rw [statementsUntil_eq, hbound]
  exact bind_of_error (iterate_of_error hstep)

end

end ToolBindings.Script
