/-!
# Substitution in text

`substitute` scans from the left, replaces what a pattern matches at the current
place and goes on behind the match, so matches never overlap.
-/
namespace ToolBindings.Text

/-- A pattern looks at the start of a text. A match gives the replacement and how many
characters it stands for; a match of no characters counts as one of one. -/
abbrev Pattern := List Char → Option (List Char × Nat)

/-- The text with every match of the pattern replaced, scanning from the left. -/
def substitute (pattern : Pattern) : List Char → List Char
  | [] => []
  | c :: rest =>
    match pattern (c :: rest) with
    | some (replacement, size) => replacement ++ substitute pattern (rest.drop (size - 1))
    | none => c :: substitute pattern rest
termination_by text => text.length
decreasing_by
  · simp only [List.length_drop, List.length_cons]; omega
  · simp

end ToolBindings.Text
