import ToolBindings.Proofs.Script.Lines
import ToolBindings.Proofs.Script.Statements
import ToolBindings.Script.Soundness

/-!
# Texts that are scripts

A text is a script if its statements are read to the end and nothing in it stands where it must not.

* `Occurrence.IsHarmless`: what may stand anywhere in scripts and functions.
* `isSound_of_harmless`: a scope with nothing else in it is sound.
* `ofText?_of_body`: a text of lines that are read as statements.
-/
namespace ToolBindings.Script

/-! ## Scopes -/

mutual

/-- What may stand anywhere in a scope of a kind, as long as the name that cannot be bound is not
bound. Scopes inside are those of functions and of annotations. -/
def Occurrence.IsHarmless (kind : ScopeKind) : Occurrence → Prop
  | .read _ => True
  | .bind id | .load id | .annotate id => id ≠ fixedName
  | .give _ => kind = .function false
  | .scope (.mk inner parameters occurrences) => inner ∈ [.function false, .unevaluated] ∧
      hasRepeated parameters = false ∧ fixedName ∉ parameters ∧ AreHarmless inner occurrences
  | _ => False

def AreHarmless (kind : ScopeKind) : List Occurrence → Prop
  | [] => True
  | o :: rest => o.IsHarmless kind ∧ AreHarmless kind rest

end

section
variable {kind : ScopeKind} {occurrences : List Occurrence}

theorem areHarmless_iff :
    AreHarmless kind occurrences ↔ ∀ o ∈ occurrences, o.IsHarmless kind := by
  induction occurrences with
  | nil => exact ⟨fun _ => nofun, fun _ => trivial⟩
  | cons o rest ih => rw [AreHarmless, ih, List.forall_mem_cons]

theorem areHarmless_append {more : List Occurrence} :
    AreHarmless kind (occurrences ++ more) ↔
      AreHarmless kind occurrences ∧ AreHarmless kind more := by
  rw [areHarmless_iff, areHarmless_iff, areHarmless_iff, List.forall_mem_append]

/-- No name is declared to belong elsewhere. -/
def NamesSoFar.IsPlain (seen : NamesSoFar) : Prop :=
  seen.sound = true ∧ seen.globals = [] ∧ seen.nonlocals = []

theorem isPlain_see {seen : NamesSoFar} (h : seen.IsPlain) {o : Occurrence}
    (ho : o.IsHarmless kind) (depth : Nat) : (seen.see depth kind o).IsPlain := by
  obtain ⟨hsound, hglobals, hnonlocals⟩ := h
  cases o with
  | read | bind | load | give => exact ⟨hsound, hglobals, hnonlocals⟩
  | annotate id =>
    refine ⟨?_, hglobals, hnonlocals⟩
    simp [NamesSoFar.see, hsound, hglobals, hnonlocals]
  | scope inner =>
    rw [NamesSoFar.see]
    split
    · exact ⟨hsound, hglobals, hnonlocals⟩
    · exact ⟨hsound, hglobals, hnonlocals⟩
  | _ => exact ho.elim

theorem isPlain_foldl (h : AreHarmless kind occurrences) (depth : Nat) {seen : NamesSoFar}
    (hseen : seen.IsPlain) : (occurrences.foldl (NamesSoFar.see depth kind) seen).IsPlain := by
  induction occurrences generalizing seen with
  | nil => exact hseen
  | cons o rest ih => exact ih h.2 (isPlain_see hseen h.1 depth)

theorem fits_of_isHarmless {o : Occurrence} (h : o.IsHarmless kind) (yields : Bool) :
    o.fits kind yields = true := by
  cases o with
  | read | scope => rfl
  | bind id | load id | annotate id => exact decide_eq_true h
  | give value =>
    obtain rfl : kind = .function false := h
    simp [Occurrence.fits, ScopeKind.isFunction]
  | _ => exact h.elim

/-- The induction is on the depth of scopes in one another. -/
theorem isSound_of_harmless (hkind : kind ∈ [.script, .function false, .unevaluated])
    {parameters : List String} (hrepeated : hasRepeated parameters = false)
    (hfixed : fixedName ∉ parameters) (h : AreHarmless kind occurrences) (bound : Nat)
    (around : ScopeKind) (visible loops : List String) :
    (Scope.mk kind parameters occurrences).isSound bound around visible loops = true := by
  induction bound generalizing kind parameters occurrences around visible loops with
  | zero => rfl
  | succ bound ih =>
    have hplain :
        (occurrences.foldl (NamesSoFar.see bound kind) { touched := parameters }).IsPlain :=
      isPlain_foldl h bound ⟨rfl, rfl, rfl⟩
    obtain ⟨hsound, -, hnonlocals⟩ := hplain
    have hall := areHarmless_iff.1 h
    have hfits (yields : Bool) : occurrences.all (Occurrence.fits kind yields) = true :=
      List.all_eq_true.2 fun o ho => fits_of_isHarmless (hall o ho) yields
    have hkinds : ∀ kind ∈ [ScopeKind.script, .function false, .unevaluated],
        kind.isComprehension = false ∧ kind ≠ .type := by decide
    obtain ⟨hcomprehension, htype⟩ := hkinds kind hkind
    unfold Scope.isSound
    simp only [hsound, hrepeated, hcomprehension, hfits, hnonlocals, htype, List.all_nil,
      Bool.not_false, Bool.and_true, Bool.true_and, decide_false, Bool.false_and,
      List.contains_eq_mem, hfixed, if_false, Bool.false_eq_true, List.any_nil]
    rw [Bool.and_eq_true, List.all_eq_true]
    refine ⟨?_, fun o ho => ?_⟩
    · split
      · cases hcomprehension
      · rfl
    · cases o with
      | scope inner =>
        obtain ⟨innerKind, innerParameters, innerOccurrences⟩ := inner
        obtain ⟨hinner, hrepeated', hfixed', hharmless⟩ := hall _ ho
        exact ih (List.mem_cons_of_mem _ hinner) hrepeated' hfixed' hharmless _ _ _
      | _ => rfl

end

/-! ## Texts -/

/-- What keeps the features out that a script does not ask for. -/
theorem isSound_scope {program : Program} (bound : Nat)
    (hfeatures : program.splitFeatures.1.all features.contains = true)
    (h : ∀ s ∈ program.splitFeatures.2, AreHarmless .script
      (s.occurrences bound { lazyAnnotations := program.hasLazyAnnotations })) :
    (program.scope bound).isSound bound .script [] [] = true := by
  have hscope : program.scope bound = .mk .script []
      (provided (program.splitFeatures.1.all features.contains) ++ program.splitFeatures.2.flatMap
        (Statement.occurrences bound { lazyAnnotations := program.hasLazyAnnotations })) := rfl
  rw [hscope, hfeatures]
  refine isSound_of_harmless (by decide) rfl List.not_mem_nil ?_ bound _ _ _
  refine areHarmless_append.2 ⟨trivial, ?_⟩
  rw [areHarmless_iff]
  intro o ho
  obtain ⟨s, hs, ho⟩ := List.mem_flatMap.1 ho
  exact areHarmless_iff.1 (h s hs) o ho

/-- A text of lines is a script if they are read as statements that stand where they may. -/
theorem ofText?_of_body {text : String} {lines : List Line} {body : List Token} {program : Program}
    (hlines : AreLines 0 lines) (hne : lines ≠ []) (htext : IsTextOf text lines)
    (htokens : lineTokens ending 0 lines = body ++ [.finish]) (hbody : ReadsBody body program)
    (hfeatures : program.splitFeatures.1.all features.contains = true)
    (hharmless : ∀ bound, ∀ s ∈ program.splitFeatures.2, AreHarmless .script
      (s.occurrences bound { lazyAnnotations := program.hasLazyAnnotations })) :
    Program.ofText? text = .ok program := by
  have hlength : body.length + 1 ≤ text.length + 2 := by
    have hle := length_lineTokens_le hlines length_ending_le
    have hchars : (lines.flatMap Line.chars).length ≤ text.length + 1 := by
      obtain heq | ⟨-, heq⟩ := htext
      · rw [← heq, String.length_toList]
        exact Nat.le_succ _
      · rw [← heq, List.length_append, String.length_toList]
        exact Nat.le_refl _
    rw [htokens, List.length_append, List.length_singleton] at hle
    omega
  have hread : statementsUntil (rules (text.length + 2) (text.length + 2)) .finish (tokens text) =
      .ok (program, []) := by
    rw [tokens_lines hlines hne htext, htokens]
    exact statementsUntil_of_reads .finish (by decide) hbody hlength hlength []
  have hprogram : Program.read? text = .ok program := by
    unfold Program.read?
    simp only [hread]
  unfold Program.ofText?
  rw [hprogram]
  show (if (program.scope (text.length + 2)).isSound (text.length + 2) .script [] [] = true then _
    else _ : Except Flaw Program) = _
  rw [isSound_scope _ hfeatures (hharmless _), if_pos rfl]
  rfl

end ToolBindings.Script
