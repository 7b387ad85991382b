import ToolBindings.Text.CodeRanges
/-!
# Blank space and trimming

`trimBlank` removes blank space of any kind, not only the ASCII one, from both ends
of a text.
-/
namespace ToolBindings.Text

/-- White space of Unicode 14.0 together with the four ASCII separators U+001C to U+001F. -/
def blanks : CodeRanges := [
  (0x0009, 0x000D), (0x001C, 0x0020), (0x0085, 0x0085), (0x00A0, 0x00A0), (0x1680, 0x1680),
  (0x2000, 0x200A), (0x2028, 0x2029), (0x202F, 0x202F), (0x205F, 0x205F), (0x3000, 0x3000)]

def isBlank (c : Char) : Bool := blanks.covers c

/-- The text without the characters of a class at its two ends. -/
def trim (p : Char → Bool) (text : List Char) : List Char :=
  ((text.dropWhile p).reverse.dropWhile p).reverse

/-- The text without blank space at its two ends. -/
def trimBlank (text : List Char) : List Char := trim isBlank text

end ToolBindings.Text
