import ToolBindings.Naming.SnakeCase

/-!
# Where words begin

A camel-case name is split by two scans. Each looks for a pattern, replaces it and goes on behind
it, the first one with as many capitals as it can get, the second one over what the first has
written. Together they follow a rule about neighbours alone: an underscore goes before a capital
that stands behind a small letter or a digit, or between a capital and a small letter.

* `beginsWord`: the rule, at a position of a name.
* `mark`: a text with underscores where a rule about neighbours asks for them.
* `substitute_acronymEnd`, `substitute_wordEnd`: each scan follows a rule of its own, so nothing is
  lost between matches.
* `mark_mark`: the second scan follows its rule as if the first had not been there.
* `snakeCase_eq`: the rule in one pass.
-/
namespace ToolBindings.Naming
open Text

/-! ## Rules about neighbours -/

/-- Whether a word begins at a character, given the characters before and behind it. -/
abbrev Boundary := Char → Char → Option Char → Bool

/-- A capital that ends a run of capitals and is followed by a small letter. -/
def acronymBoundary : Boundary := fun before c behind =>
  isCapital before && isCapital c && behind.any isSmall

/-- A capital behind a small letter or a decimal digit. -/
def wordBoundary : Boundary := fun before c _ =>
  (isSmall before || isDecimal before) && isCapital c

/-- Whether a word begins at the head of a text, given the character before it if there is one. -/
def marksHead (rule : Boundary) (before : Option Char) : List Char → Bool
  | [] => false
  | c :: rest => before.any fun b => rule b c rest.head?

/-- The text with an underscore before each character at which a word begins. -/
def mark (rule : Boundary) (before : Option Char) : List Char → List Char
  | [] => []
  | c :: rest =>
    if marksHead rule before (c :: rest) then '_' :: c :: mark rule (some c) rest
    else c :: mark rule (some c) rest

/-- Whether a word begins at a position of a name: there is a capital, and before it a small letter
or a decimal digit, or else a capital before it and a small letter behind it. -/
def beginsWord (name : List Char) (i : Nat) : Bool :=
  1 ≤ i && name[i]?.any isCapital &&
    (name[i - 1]?.any (fun c => isSmall c || isDecimal c) ||
      name[i - 1]?.any isCapital && name[i + 1]?.any isSmall)

section
variable {rule : Boundary} {before : Option Char} {c d : Char} {rest text : List Char}

theorem mark_of_marksHead (h : marksHead rule before (c :: rest) = true) :
    mark rule before (c :: rest) = '_' :: c :: mark rule (some c) rest := by
  rw [mark, if_pos h]

theorem mark_of_not_marksHead (h : marksHead rule before (c :: rest) = false) :
    mark rule before (c :: rest) = c :: mark rule (some c) rest := by
  rw [mark, if_neg (by rw [h]; exact Bool.false_ne_true)]

/-! ## Kinds of characters -/

theorem isSmall_of_isCapital (h : isCapital c = true) : isSmall c = false := by
  simp only [isCapital, isSmall, Bool.and_eq_true, decide_eq_true_eq, Bool.and_eq_false_iff,
    decide_eq_false_iff_not, Char.le_def, UInt32.le_iff_toNat_le] at h ⊢
  have hlast : 'Z'.val.toNat < 'a'.val.toNat := by decide
  omega

theorem isDecimal_of_isCapital (h : isCapital c = true) : isDecimal c = false := by
  have hall : ∀ n, n < 91 → 65 ≤ n →
      (decimalZeros.find? fun first => first ≤ n && n ≤ first + 9) = none := by decide
  simp only [isCapital, Bool.and_eq_true, decide_eq_true_eq, Char.le_def,
    UInt32.le_iff_toNat_le] at h
  rw [isDecimal, decimalValue?, hall c.toNat (Nat.lt_succ_of_le h.2) h.1]
  rfl

theorem isCapital_of_isSmall (h : isSmall c = true) : isCapital c = false := by
  cases hc : isCapital c with
  | false => rfl
  | true => rw [isSmall_of_isCapital hc] at h; cases h

/-- No word of the second kind begins behind a capital. -/
theorem not_marksHead_of_isCapital (hc : isCapital c = true) (text : List Char) :
    marksHead wordBoundary (some c) text = false := by
  cases text with
  | nil => rfl
  | cons d rest =>
    simp [marksHead, wordBoundary, isSmall_of_isCapital hc, isDecimal_of_isCapital hc]

/-- No acronym ends behind anything but a capital. -/
theorem not_marksHead_of_not_isCapital (hc : isCapital c = false) (text : List Char) :
    marksHead acronymBoundary (some c) text = false := by
  cases text with
  | nil => rfl
  | cons d rest => simp [marksHead, acronymBoundary, hc]

/-- Inside a run of capitals no acronym ends. -/
theorem not_marksHead_run (hd : isCapital d = true) :
    marksHead acronymBoundary before (c :: d :: rest) = false := by
  cases before with
  | none => rfl
  | some b => simp [marksHead, acronymBoundary, isSmall_of_isCapital hd]

/-! ## The first scan -/

/-- What the first pattern finds: a run of capitals, another capital and a small letter. -/
theorem acronymEnd_eq_some {replacement : List Char} {size : Nat}
    (h : acronymEnd text = some (replacement, size)) :
    ∃ run capital small rest, text = run ++ capital :: small :: rest ∧
      (∀ c ∈ run, isCapital c = true) ∧ run ≠ [] ∧
      isCapital capital = true ∧ isSmall small = true ∧
      replacement = run ++ ['_', capital, small] ∧ size = run.length + 2 := by
  induction text generalizing replacement size with
  | nil => cases h
  | cons c rest ih =>
    unfold acronymEnd at h
    split at h
    next hc =>
      split at h
      · next longer hlonger =>
        cases h
        obtain ⟨run, capital, small, others, rfl, hrun, -, hcapital, hsmall, rfl, rfl⟩ := ih hlonger
        refine ⟨c :: run, capital, small, others, rfl, ?_, List.cons_ne_nil _ _, hcapital, hsmall,
          rfl, rfl⟩
        exact List.forall_mem_cons.2 ⟨hc, hrun⟩
      · split at h
        · next capital small others _ =>
          split at h
          · next hboth =>
            cases h
            rw [Bool.and_eq_true] at hboth
            exact ⟨[c], capital, small, others, rfl, by simpa using hc, List.cons_ne_nil _ _,
              hboth.1, hboth.2, rfl, rfl⟩
          · cases h
        · cases h
    · cases h

/-- Where the first pattern is not found, no acronym ends behind the first character. -/
theorem not_marksHead_of_acronymEnd (h : acronymEnd (c :: rest) = none) :
    marksHead acronymBoundary (some c) rest = false := by
  cases hc : isCapital c with
  | false => exact not_marksHead_of_not_isCapital hc rest
  | true =>
    match rest with
    | [] => rfl
    | [d] => simp [marksHead, acronymBoundary]
    | d :: e :: others =>
      unfold acronymEnd at h
      rw [if_pos hc] at h
      split at h
      · cases h
      · simp only [ite_eq_right_iff, reduceCtorEq, imp_false, Bool.not_eq_true] at h
        simpa [marksHead, acronymBoundary, hc] using h

/-- A run of capitals is kept up to its last one. -/
theorem mark_run {run : List Char} {capital small : Char} (hrun : ∀ c ∈ run, isCapital c = true)
    (hne : run ≠ []) (hcapital : isCapital capital = true) (hsmall : isSmall small = true)
    (hhead : marksHead acronymBoundary before (run ++ capital :: small :: rest) = false) :
    mark acronymBoundary before (run ++ capital :: small :: rest) =
      run ++ '_' :: capital :: small :: mark acronymBoundary (some small) rest := by
  induction run generalizing before with
  | nil => exact absurd rfl hne
  | cons c run ih =>
    obtain ⟨hc, hrun⟩ := List.forall_mem_cons.1 hrun
    rw [List.cons_append] at hhead ⊢
    rw [mark_of_not_marksHead hhead]
    cases run with
    | nil =>
      have hends : marksHead acronymBoundary (some c) (capital :: small :: rest) = true := by
        simp [marksHead, acronymBoundary, hc, hcapital, hsmall]
      have hgoes : marksHead acronymBoundary (some capital) (small :: rest) = false := by
        simp [marksHead, acronymBoundary, isCapital_of_isSmall hsmall]
      rw [List.nil_append, mark_of_marksHead hends, mark_of_not_marksHead hgoes]
      rfl
    | cons d run =>
      have hinside : marksHead acronymBoundary (some c) (d :: run ++ capital :: small :: rest) =
          false := by
        cases run with
        | nil => exact not_marksHead_run hcapital
        | cons e run => exact not_marksHead_run (hrun e (by simp))
      rw [ih hrun (List.cons_ne_nil _ _) hinside]
      rfl

/-- The first scan follows its rule. It looks at places that are not behind a capital, or behind one
where no acronym ends; the induction is on the length of what is left. -/
theorem substitute_acronymEnd (h : marksHead acronymBoundary before text = false) :
    substitute acronymEnd text = mark acronymBoundary before text := by
  induction hn : text.length using Nat.strongRecOn generalizing before text with
  | _ n ih =>
  subst hn
  cases text with
  | nil => rw [substitute]; rfl
  | cons c rest =>
    rw [substitute]
    split
    · next replacement size hfound =>
      obtain ⟨run, capital, small, others, htext, hrun, hne, hcapital, hsmall, rfl, rfl⟩ :=
        acronymEnd_eq_some hfound
      have hothers : rest.drop (run.length + 2 - 1) = others := by
        have hdrop : (c :: rest).drop (run.length + 2) = others := by
          rw [htext, ← List.drop_drop, List.drop_left]
          rfl
        exact hdrop
      have hlength : others.length < (c :: rest).length := by
        rw [htext, List.length_append, List.length_cons, List.length_cons]
        omega
      have hsmall' := isCapital_of_isSmall hsmall
      rw [hothers, ih _ hlength (not_marksHead_of_not_isCapital hsmall' others) rfl, htext,
        mark_run hrun hne hcapital hsmall (htext ▸ h), List.append_assoc]
      rfl
    · next hnone =>
      have hrest := not_marksHead_of_acronymEnd hnone
      rw [mark_of_not_marksHead h, ih _ (Nat.lt_succ_self _) hrest rfl]

/-! ## The second scan -/

/-- The second scan follows its rule. Behind a match stands a capital, where no match begins. -/
theorem substitute_wordEnd (h : marksHead wordBoundary before text = false) :
    substitute wordEnd text = mark wordBoundary before text := by
  induction hn : text.length using Nat.strongRecOn generalizing before text with
  | _ n ih =>
  subst hn
  match text with
  | [] => rw [substitute]; rfl
  | [c] => rw [mark_of_not_marksHead h, substitute, substitute]; rfl
  | c :: d :: rest =>
    rw [mark_of_not_marksHead h, substitute]
    cases hd : marksHead wordBoundary (some c) (d :: rest) with
    | true =>
      have hboth : ((isSmall c || isDecimal c) && isCapital d) = true := hd
      have hcapital : isCapital d = true := (Bool.and_eq_true _ _ ▸ hboth).2
      have hlength : rest.length < (c :: d :: rest).length := by
        rw [List.length_cons, List.length_cons]; omega
      have hrest := ih _ hlength (not_marksHead_of_isCapital hcapital rest) rfl
      simp only [wordEnd, hboth, if_true, mark_of_marksHead hd]
      rw [show List.drop (2 - 1) (d :: rest) = rest from rfl, hrest]
      rfl
    | false =>
      have hboth : ((isSmall c || isDecimal c) && isCapital d) = false := hd
      simp only [wordEnd, hboth, Bool.false_eq_true, if_false]
      rw [ih _ (Nat.lt_succ_self _) hd rfl]

/-! ## Both scans -/

def Boundary.or (rule other : Boundary) : Boundary := fun before c behind =>
  rule before c behind || other before c behind

theorem marksHead_or {other : Boundary} : marksHead (rule.or other) before text =
    (marksHead rule before text || marksHead other before text) := by
  cases text with
  | nil => rfl
  | cons c rest => cases before <;> rfl

/-- The underscores of the first scan neither part what the second one looks for nor are part of
it. -/
theorem mark_mark (before : Option Char) (text : List Char) :
    mark wordBoundary before (mark acronymBoundary before text) =
      mark (acronymBoundary.or wordBoundary) before text := by
  induction text generalizing before with
  | nil => rfl
  | cons c rest ih =>
    -- What stands behind a character does not matter to the second rule.
    have hword : ∀ others, marksHead wordBoundary before (c :: others) =
        marksHead wordBoundary before (c :: rest) := fun others => by cases before <;> rfl
    have hunder : ∀ others, marksHead wordBoundary before ('_' :: others) = false := by
      intro others
      cases before with
      | none => rfl
      | some b => exact Bool.and_false _
    have hbehind : ∀ others, marksHead wordBoundary (some '_') (c :: others) = false := by
      intro others
      have hkind : (isSmall '_' || isDecimal '_') = false := by decide
      simp [marksHead, wordBoundary, hkind]
    have hor := @marksHead_or acronymBoundary before (c :: rest) wordBoundary
    cases hacronym : marksHead acronymBoundary before (c :: rest) with
    | true =>
      rw [hacronym, Bool.true_or] at hor
      rw [mark_of_marksHead hacronym, mark_of_not_marksHead (hunder _),
        mark_of_not_marksHead (hbehind _), ih, mark_of_marksHead hor]
    | false =>
      rw [hacronym, Bool.false_or] at hor
      rw [mark_of_not_marksHead hacronym]
      cases hends : marksHead wordBoundary before (c :: rest) with
      | true =>
        rw [hends] at hor
        rw [mark_of_marksHead ((hword _).trans hends), ih, mark_of_marksHead hor]
      | false =>
        rw [hends] at hor
        rw [mark_of_not_marksHead ((hword _).trans hends), ih, mark_of_not_marksHead hor]

/-- At the start of a name no rule applies, so both scans follow theirs all the way. -/
theorem splitWords_eq_mark (name : List Char) :
    splitWords name = mark (acronymBoundary.or wordBoundary) none name := by
  have hstart : ∀ (rule : Boundary) text, marksHead rule none text = false := by
    intro rule text
    cases text <;> rfl
  rw [splitWords, substitute_acronymEnd (hstart _ _), substitute_wordEnd (hstart _ _), mark_mark]

/-! ## Positions -/

/-- Whether a word begins behind the first characters of a name shows in the last of them and what
follows. -/
theorem beginsWord_append (front : List Char) (c : Char) (rest : List Char) :
    beginsWord (front ++ c :: rest) front.length =
      marksHead (acronymBoundary.or wordBoundary) front.getLast? (c :: rest) := by
  have hbehind : (front ++ c :: rest)[front.length + 1]? = rest.head? := by
    rw [List.getElem?_append_right (Nat.le_add_right _ 1), Nat.add_sub_cancel_left,
      List.getElem?_cons_succ, List.head?_eq_getElem?]
  have hhere : (front ++ c :: rest)[front.length]? = some c := by
    rw [List.getElem?_append_right (Nat.le_refl _), Nat.sub_self, List.getElem?_cons_zero]
  rw [beginsWord, hbehind, hhere]
  rcases List.eq_nil_or_concat front with rfl | ⟨front, before, rfl⟩
  · rfl
  · have hbefore : (front ++ [before] ++ c :: rest)[(front ++ [before]).length - 1]? =
        some before := by simp
    rw [List.concat_eq_append, hbefore, List.getLast?_concat]
    simp only [marksHead, Boundary.or, acronymBoundary, wordBoundary, Option.any_some]
    cases isCapital c <;> cases isCapital before <;> simp [Bool.or_comm]

theorem mark_eq_flatMap (front text : List Char) :
    mark (acronymBoundary.or wordBoundary) front.getLast? text =
      (text.zipIdx front.length).flatMap fun entry =>
        if beginsWord (front ++ text) entry.2 then ['_', entry.1] else [entry.1] := by
  induction text generalizing front with
  | nil => rfl
  | cons c rest ih =>
    have hnext := ih (front ++ [c])
    rw [List.getLast?_concat, List.length_append, List.length_singleton, List.append_assoc,
      List.singleton_append] at hnext
    rw [List.zipIdx_cons, List.flatMap_cons, beginsWord_append, ← hnext]
    cases h : marksHead (acronymBoundary.or wordBoundary) front.getLast? (c :: rest) with
    | true => rw [mark_of_marksHead h]; rfl
    | false => rw [mark_of_not_marksHead h]; rfl

end

/-- Splitting a name and lowering it is lowering the name with one underscore before each position
at which a word begins, and no other. -/
theorem snakeCase_eq (name : List Char) :
    snakeCase name = lowerCase (name.zipIdx.flatMap fun entry =>
      if beginsWord name entry.2 then ['_', entry.1] else [entry.1]) := by
  rw [snakeCase, splitWords_eq_mark]
  exact congrArg lowerCase (mark_eq_flatMap [] name)

example : snakeCase "getHTTPServer2Go".toList = "get_http_server2_go".toList := by decide +kernel

end ToolBindings.Naming
