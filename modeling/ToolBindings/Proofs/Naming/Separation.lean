import Mathlib.Data.List.Nodup
import Mathlib.Data.List.TFAE
import Mathlib.Tactic.TFAE
import ToolBindings.Naming.Derived
import ToolBindings.Proofs.Naming.Joining

/-!
# Derived names are legal and never meet by accident

All names of a tool's parts are identifiers made from the same two names, with a
fixed word in front or behind, some of them in capitals.

* `isLegal_identifier`, `isLegal_capitals`: they can stand as names.
* `getLast_constantName` … `getLast_aggregatorName`: the first and last characters
  that tell one family of names from another.
* `constantName_inj` … `toolName_inj`: a name of any family says what `joined`
  gives for the two names, no more and no less.
* `Part.eq_of_name_eq`, `Part.name_inj`: names of a tool's parts are equal only for
  the same part, and then exactly if the name constants are equal.
-/
namespace ToolBindings.Naming
open Text

/-- A text that can be given a meaning: an identifier that is no keyword. -/
def IsLegal (name : String) : Prop :=
  isIdentifier name.toList = true ∧ isKeyword name.toList = false

/-! ## Characters -/

/-- The characters that segments are made of. -/
def segmentChars : List Char := "abcdefghijklmnopqrstuvwxyz0123456789_".toList

theorem mem_segmentChars {c : Char} (h : isSegmentChar c = true) : c ∈ segmentChars := by
  have hs : ∀ n, n < 123 → 97 ≤ n → Char.ofNat n ∈ segmentChars := by decide
  have hd : ∀ n, n < 58 → 48 ≤ n → Char.ofNat n ∈ segmentChars := by decide
  have hc : Char.ofNat c.toNat = c := Char.ofNat_toNat c
  simp only [isSegmentChar, isSmall, Char.isDigit, Bool.or_eq_true, Bool.and_eq_true,
    decide_eq_true_eq, beq_iff_eq, Char.le_def, UInt32.le_iff_toNat_le, ge_iff_le] at h
  rcases h with (⟨h1, h2⟩ | ⟨h1, h2⟩) | rfl
  · rw [← hc]; exact hs _ (Nat.lt_succ_of_le h2) h1
  · rw [← hc]; exact hd _ (Nat.lt_succ_of_le h2) h1
  · decide

/-- Characters of a list are looked at one by one, not all characters there are. -/
theorem forall_mem_of_all {chars : List Char} {p : Char → Prop} [DecidablePred p]
    (h : chars.all (fun c => decide (p c)) = true) : ∀ c ∈ chars, p c := by
  simpa only [List.all_eq_true, decide_eq_true_eq] using h

theorem toUpper_inj : ∀ c ∈ segmentChars, ∀ d ∈ segmentChars, c.toUpper = d.toUpper → c = d := by
  have hd : (segmentChars.map Char.toUpper).Nodup := by decide
  exact fun c hc d hd' he => List.inj_on_of_nodup_map hd hc hd' he

theorem isSmall_toUpper : ∀ c ∈ segmentChars, isSmall c.toUpper = false :=
  forall_mem_of_all (by decide)

theorem isIdentifierPart_segmentChar : ∀ c ∈ segmentChars,
    isIdentifierPart c = true ∧ isIdentifierPart c.toUpper = true :=
  forall_mem_of_all (by decide)

theorem isIdentifierStart_segmentChar : ∀ c ∈ segmentChars, c.isDigit = false →
    isIdentifierStart c = true ∧ isIdentifierStart c.toUpper = true :=
  forall_mem_of_all (by decide)

/-- No keyword is all capitals. -/
theorem exists_isSmall_of_mem_keywords : ∀ k ∈ keywords, ∃ c ∈ k.toList, isSmall c = true := by
  have hany : ∀ k ∈ keywords, k.toList.any isSmall = true := by decide
  exact fun k hk => List.any_eq_true.1 (hany k hk)

theorem head_keyword : ∀ k ∈ keywords, k.toList.head? ≠ some '_' := by decide

theorem isKeyword_eq_true {text : List Char} (h : isKeyword text = true) :
    ∃ k ∈ keywords, k.toList = text := by
  unfold isKeyword at h
  obtain ⟨k, hk, he⟩ := List.any_eq_true.1 h
  exact ⟨k, hk, by simpa using he⟩

/-! ## Legal names -/

/-- An identifier begins with something that is no digit, and is no keyword. -/
theorem exists_identifier (names : List (List Char)) :
    ∃ c rest, identifier names = c :: rest ∧ c.isDigit = false ∧
      isKeyword (identifier names) = false := by
  rw [identifier_eq]
  split
  · refine ⟨'_', _, rfl, rfl, ?_⟩
    cases hk : isKeyword ('_' :: joined names) with
    | false => rfl
    | true =>
      obtain ⟨k, hm, he⟩ := isKeyword_eq_true hk
      exact absurd (by rw [he]; rfl) (head_keyword k hm)
  · next h =>
    cases hj : joined names with
    | nil => rw [hj] at h; exact absurd rfl h
    | cons c rest =>
      rw [hj] at h
      simp only [needsUnderscore, Bool.not_eq_true, Bool.or_eq_false_iff] at h
      exact ⟨c, rest, rfl, h.1, h.2⟩

theorem isLegal_identifier (names : List (List Char)) :
    IsLegal (String.ofList (identifier names)) := by
  obtain ⟨c, rest, he, hd, hk⟩ := exists_identifier names
  have hmem : ∀ d ∈ c :: rest, d ∈ segmentChars := fun d h =>
    mem_segmentChars (isSegmentChar_of_mem_identifier (he ▸ h))
  unfold IsLegal
  rw [String.toList_ofList]
  refine ⟨?_, hk⟩
  rw [he, isIdentifier, Bool.and_eq_true, List.all_eq_true]
  exact ⟨(isIdentifierStart_segmentChar c (hmem c List.mem_cons_self) hd).1, fun d h =>
    (isIdentifierPart_segmentChar d (hmem d (List.mem_cons_of_mem _ h))).1⟩

theorem isLegal_capitals (names : List (List Char)) :
    IsLegal (String.ofList ((identifier names).map Char.toUpper)) := by
  obtain ⟨c, rest, he, hd, -⟩ := exists_identifier names
  have hmem : ∀ d ∈ c :: rest, d ∈ segmentChars := fun d h =>
    mem_segmentChars (isSegmentChar_of_mem_identifier (he ▸ h))
  unfold IsLegal
  rw [String.toList_ofList, he]
  constructor
  · rw [List.map_cons, isIdentifier, Bool.and_eq_true, List.all_eq_true]
    refine ⟨(isIdentifierStart_segmentChar c (hmem c List.mem_cons_self) hd).2, fun d h => ?_⟩
    obtain ⟨e, hm, rfl⟩ := List.mem_map.1 h
    exact (isIdentifierPart_segmentChar e (hmem e (List.mem_cons_of_mem _ hm))).2
  · cases hk : isKeyword ((c :: rest).map Char.toUpper) with
    | false => rfl
    | true =>
      obtain ⟨k, hk, heq⟩ := isKeyword_eq_true hk
      obtain ⟨d, hd, hs⟩ := exists_isSmall_of_mem_keywords k hk
      rw [heq] at hd
      obtain ⟨e, hm, rfl⟩ := List.mem_map.1 hd
      rw [isSmall_toUpper e (hmem e hm)] at hs
      cases hs

theorem isLegal_aggregatorName (path : String) : IsLegal (aggregatorName path) :=
  isLegal_identifier _

/-! ## The two ends of a name -/

theorem joined_singleton (name : List Char) : joined [name] = segment name := by
  rw [joined_cons]
  simp [joined, glue]

theorem joined_tool : joined ["tool".toList] = "tool".toList := by
  rw [joined_singleton]; decide +kernel

theorem joined_tools : joined ["tools".toList] = "tools".toList := by
  rw [joined_singleton]; decide +kernel

theorem joined_inputSchema : joined ["input_schema".toList] = "input_schema".toList := by
  rw [joined_singleton]; decide +kernel

theorem joined_call : joined ["call".toList] = "call".toList := by
  rw [joined_singleton]; decide +kernel

theorem joined_define : joined ["define".toList] = "define".toList := by
  rw [joined_singleton]; decide +kernel

/-- A word behind all others ends the identifier. -/
theorem getLast_identifier (names back : List (List Char))
    (hb : joined back ≠ []) :
    (identifier (names ++ back)).getLast? = (joined back).getLast? := by
  have hg : (joined (names ++ back)).getLast? = (joined back).getLast? := by
    rw [joined_append, getLast_glue hb]
  have hne : joined (names ++ back) ≠ [] := by
    intro h
    rw [h, List.getLast?_nil, eq_comm, List.getLast?_eq_none_iff] at hg
    exact hb hg
  obtain ⟨front, hf⟩ := joined_suffix_identifier (names ++ back)
  rw [← hf, List.getLast?_append_of_ne_nil _ hne, hg]

/-- A word in front of all others begins the identifier, unless the result could be a keyword
or a number. -/
theorem head_identifier (front names : List (List Char)) {c : Char}
    (hc : (joined front).head? = some c) (hd : c.isDigit = false)
    (hk : ∀ k ∈ keywords, ¬joined front <+: k.toList) :
    (identifier (front ++ names)).head? = some c := by
  have hne : joined front ≠ [] := by intro h; rw [h] at hc; cases hc
  have hh : (joined (front ++ names)).head? = some c := by rw [joined_append, head_glue hne, hc]
  have hp : joined front <+: joined (front ++ names) := by
    rw [joined_append]; exact prefix_glue _ _
  rw [identifier_eq, if_neg, hh]
  intro h
  cases hj : joined (front ++ names) with
  | nil => rw [hj] at hh; cases hh
  | cons first rest =>
    rw [hj] at h hh hp
    simp only [List.head?_cons, Option.some.injEq] at hh
    subst hh
    simp only [needsUnderscore, hd, Bool.false_or] at h
    obtain ⟨k, hm, he⟩ := isKeyword_eq_true h
    exact hk k hm (he ▸ hp)

theorem getLast_constantName (service method : String) :
    (constantName service method).toList.getLast? = some 'L' := by
  unfold constantName
  rw [String.toList_ofList, List.getLast?_map]
  have := getLast_identifier [service.toList, method.toList] ["tool".toList]
    (by rw [joined_tool]; decide)
  rw [joined_tool] at this
  exact congrArg (Option.map Char.toUpper) this

theorem getLast_schemaName (service method : String) :
    (schemaName service method).toList.getLast? = some 'A' := by
  unfold schemaName
  rw [String.toList_ofList, List.getLast?_map]
  have := getLast_identifier [service.toList, method.toList] ["input_schema".toList]
    (by rw [joined_inputSchema]; decide)
  rw [joined_inputSchema] at this
  exact congrArg (Option.map Char.toUpper) this

theorem head_dispatchName (service method : String) :
    (dispatchName service method).toList.head? = some 'c' := by
  unfold dispatchName
  rw [String.toList_ofList]
  exact head_identifier ["call".toList] [service.toList, method.toList]
    (by rw [joined_call]; rfl) rfl (by rw [joined_call]; decide)

theorem head_constructorName (service method : String) :
    (constructorName service method).toList.head? = some 'd' := by
  unfold constructorName
  rw [String.toList_ofList]
  exact head_identifier ["define".toList]
    [service.toList, method.toList, "tool".toList]
    (by rw [joined_define]; rfl) rfl (by rw [joined_define]; decide)

theorem getLast_constructorName (service method : String) :
    (constructorName service method).toList.getLast? = some 'l' := by
  unfold constructorName
  rw [String.toList_ofList]
  have := getLast_identifier ["define".toList, service.toList, method.toList]
    ["tool".toList] (by rw [joined_tool]; decide)
  rw [joined_tool] at this
  exact this

theorem head_aggregatorName (path : String) : (aggregatorName path).toList.head? = some 'd' := by
  unfold aggregatorName
  rw [String.toList_ofList]
  exact head_identifier ["define".toList] [fileStem path.toList, "tools".toList]
    (by rw [joined_define]; rfl) rfl (by rw [joined_define]; decide)

theorem getLast_aggregatorName (path : String) :
    (aggregatorName path).toList.getLast? = some 's' := by
  unfold aggregatorName
  rw [String.toList_ofList]
  have := getLast_identifier ["define".toList, fileStem path.toList]
    ["tools".toList] (by rw [joined_tools]; decide)
  rw [joined_tools] at this
  exact this

/-- Dispatch functions are written without capitals. -/
theorem isSegmentChar_of_getLast_dispatchName {service method : String} {c : Char}
    (h : (dispatchName service method).toList.getLast? = some c) : isSegmentChar c = true := by
  unfold dispatchName at h
  rw [String.toList_ofList] at h
  exact isSegmentChar_of_mem_identifier (List.mem_of_getLast? h)

/-! ## What a name says -/

section
variable {service method service' method' : String}

theorem map_toUpper_inj {a b : List Char} (ha : ∀ c ∈ a, c ∈ segmentChars)
    (hb : ∀ c ∈ b, c ∈ segmentChars) (h : a.map Char.toUpper = b.map Char.toUpper) : a = b := by
  induction a generalizing b with
  | nil => simpa using h.symm
  | cons c a ih =>
    cases b with
    | nil => cases h
    | cons d b =>
      rw [List.map_cons, List.map_cons, List.cons.injEq] at h
      rw [toUpper_inj c (ha c List.mem_cons_self) d (hb d List.mem_cons_self) h.1,
        ih (fun e he => ha e (List.mem_cons_of_mem _ he))
          (fun e he => hb e (List.mem_cons_of_mem _ he)) h.2]

theorem capitals_inj {a b : List (List Char)} :
    (identifier a).map Char.toUpper = (identifier b).map Char.toUpper ↔ joined a = joined b := by
  refine ⟨fun h => identifier_inj.1 ?_, fun h => by rw [identifier_inj.2 h]⟩
  exact map_toUpper_inj (fun c hc => mem_segmentChars (isSegmentChar_of_mem_identifier hc))
    (fun c hc => mem_segmentChars (isSegmentChar_of_mem_identifier hc)) h

theorem toolName_inj : toolName service method = toolName service' method' ↔
    joined [service.toList, method.toList] = joined [service'.toList, method'.toList] := by
  unfold toolName
  rw [String.ofList_inj, identifier_inj]

theorem constantName_inj : constantName service method = constantName service' method' ↔
    joined [service.toList, method.toList] = joined [service'.toList, method'.toList] := by
  unfold constantName
  rw [String.ofList_inj, capitals_inj]
  exact joined_append_left_inj [service.toList, method.toList] [service'.toList, method'.toList]
    ["tool".toList] (by rw [joined_tool]; decide)

theorem schemaName_inj : schemaName service method = schemaName service' method' ↔
    joined [service.toList, method.toList] = joined [service'.toList, method'.toList] := by
  unfold schemaName
  rw [String.ofList_inj, capitals_inj]
  exact joined_append_left_inj [service.toList, method.toList] [service'.toList, method'.toList]
    ["input_schema".toList] (by rw [joined_inputSchema]; decide)

theorem dispatchName_inj : dispatchName service method = dispatchName service' method' ↔
    joined [service.toList, method.toList] = joined [service'.toList, method'.toList] := by
  unfold dispatchName
  rw [String.ofList_inj, identifier_inj]
  exact joined_append_right_inj ["call".toList] [service.toList, method.toList]
    [service'.toList, method'.toList] (by rw [joined_call]; decide)

theorem constructorName_inj : constructorName service method = constructorName service' method' ↔
    joined [service.toList, method.toList] = joined [service'.toList, method'.toList] := by
  unfold constructorName
  rw [String.ofList_inj, identifier_inj]
  have hf := joined_append_right_inj ["define".toList]
    [service.toList, method.toList, "tool".toList]
    [service'.toList, method'.toList, "tool".toList] (by rw [joined_define]; decide)
  have hb := joined_append_left_inj [service.toList, method.toList]
    [service'.toList, method'.toList] ["tool".toList] (by rw [joined_tool]; decide)
  exact hf.trans hb

/-- The five names of two methods are all equal or all different. -/
theorem derivedNames_tfae : List.TFAE [
    constantName service method = constantName service' method',
    schemaName service method = schemaName service' method',
    dispatchName service method = dispatchName service' method',
    constructorName service method = constructorName service' method',
    toolName service method = toolName service' method'] := by
  tfae_have 1 ↔ 2 := constantName_inj.trans schemaName_inj.symm
  tfae_have 2 ↔ 3 := schemaName_inj.trans dispatchName_inj.symm
  tfae_have 3 ↔ 4 := dispatchName_inj.trans constructorName_inj.symm
  tfae_have 4 ↔ 5 := constructorName_inj.trans toolName_inj.symm
  tfae_finish

end

/-! ## The parts of a tool -/

/-- What a module defines for a tool. -/
inductive Part where
  | constant | schema | dispatch | constructor
deriving DecidableEq, Repr

def Part.name : Part → String → String → String
  | constant => constantName
  | schema => schemaName
  | dispatch => dispatchName
  | constructor => constructorName

theorem Part.isLegal_name (part : Part) (service method : String) :
    IsLegal (part.name service method) := by
  cases part with
  | constant => exact isLegal_capitals _
  | schema => exact isLegal_capitals _
  | dispatch => exact isLegal_identifier _
  | constructor => exact isLegal_identifier _

theorem ne_of_head {a b : String} {c d : Char} (ha : a.toList.head? = some c)
    (hb : b.toList.head? = some d) (h : c ≠ d) : a ≠ b := by
  rintro rfl
  rw [ha] at hb
  exact h (Option.some.inj hb)

theorem ne_of_getLast {a b : String} {c d : Char} (ha : a.toList.getLast? = some c)
    (hb : b.toList.getLast? = some d) (h : c ≠ d) : a ≠ b := by
  rintro rfl
  rw [ha] at hb
  exact h (Option.some.inj hb)

/-- A dispatch function does not end in a capital. -/
theorem ne_dispatchName {service method a : String} {c : Char} (ha : a.toList.getLast? = some c)
    (hc : isSegmentChar c = false) : a ≠ dispatchName service method := by
  rintro rfl
  rw [isSegmentChar_of_getLast_dispatchName ha] at hc
  cases hc

/-- Names of different parts are different, whatever the tools. Capitals at the end tell the
constants from one another and from the functions, the first letter tells the functions apart. -/
theorem Part.eq_of_name_eq {p q : Part} {service method service' method' : String}
    (h : p.name service method = q.name service' method') : p = q := by
  have hconstant := getLast_constantName
  have hschema := getLast_schemaName
  cases p <;> cases q <;> try rfl
  · exact absurd h (ne_of_getLast (hconstant _ _) (hschema _ _) (by decide))
  · exact absurd h (ne_dispatchName (hconstant _ _) (by decide))
  · exact absurd h (ne_of_getLast (hconstant _ _) (getLast_constructorName _ _) (by decide))
  · exact absurd h.symm (ne_of_getLast (hconstant _ _) (hschema _ _) (by decide))
  · exact absurd h (ne_dispatchName (hschema _ _) (by decide))
  · exact absurd h (ne_of_getLast (hschema _ _) (getLast_constructorName _ _) (by decide))
  · exact absurd h.symm (ne_dispatchName (hconstant _ _) (by decide))
  · exact absurd h.symm (ne_dispatchName (hschema _ _) (by decide))
  · exact absurd h (ne_of_head (head_dispatchName _ _) (head_constructorName _ _) (by decide))
  · exact absurd h.symm (ne_of_getLast (hconstant _ _) (getLast_constructorName _ _) (by decide))
  · exact absurd h.symm (ne_of_getLast (hschema _ _) (getLast_constructorName _ _) (by decide))
  · exact absurd h.symm (ne_of_head (head_dispatchName _ _) (head_constructorName _ _) (by decide))

/-- Two names of a part are equal exactly if the name constants are. -/
theorem Part.name_inj (part : Part) {service method service' method' : String} :
    part.name service method = part.name service' method' ↔
      constantName service method = constantName service' method' := by
  cases part with
  | constant => exact Iff.rfl
  | schema => exact schemaName_inj.trans constantName_inj.symm
  | dispatch => exact dispatchName_inj.trans constantName_inj.symm
  | constructor => exact constructorName_inj.trans constantName_inj.symm

theorem Part.name_ne_aggregatorName (part : Part) (service method path : String) :
    part.name service method ≠ aggregatorName path := by
  have ha := getLast_aggregatorName path
  cases part with
  | constant => exact ne_of_getLast (getLast_constantName _ _) ha (by decide)
  | schema => exact ne_of_getLast (getLast_schemaName _ _) ha (by decide)
  | dispatch => exact ne_of_head (head_dispatchName _ _) (head_aggregatorName _) (by decide)
  | constructor => exact ne_of_getLast (getLast_constructorName _ _) ha (by decide)

/-- What is neither like a constant at its end nor like a function at its beginning is no name
of a part and no aggregator. -/
theorem Part.name_ne_of_ends {other : String}
    (hlast : other.toList.getLast? ≠ some 'L' ∧ other.toList.getLast? ≠ some 'A')
    (hhead : other.toList.head? ≠ some 'c' ∧ other.toList.head? ≠ some 'd') (part : Part)
    (service method : String) : part.name service method ≠ other := by
  rintro rfl
  cases part with
  | constant => exact hlast.1 (getLast_constantName _ _)
  | schema => exact hlast.2 (getLast_schemaName _ _)
  | dispatch => exact hhead.1 (head_dispatchName _ _)
  | constructor => exact hhead.2 (head_constructorName _ _)

end ToolBindings.Naming
