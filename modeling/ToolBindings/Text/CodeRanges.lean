/-!
# Sets of characters as ranges of code points

The character classes of this library are tables of ranges. `CodeRanges.covers`
looks a character up; it may stop early because the tables are in order.
-/
namespace ToolBindings.Text

/-- Ranges of code points, both ends included, in increasing order. -/
abbrev CodeRanges := List (Nat × Nat)

/-- Whether a character lies in one of the ranges: the search ends at the first
range that begins above it. -/
def CodeRanges.covers : CodeRanges → Char → Bool
  | [], _ => false
  | (lo, hi) :: rest, c =>
    if c.toNat < lo then false
    else if c.toNat ≤ hi then true
    else CodeRanges.covers rest c

end ToolBindings.Text
