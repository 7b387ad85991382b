import ToolBindings.Text.Digit
import ToolBindings.Text.LowerCase
import ToolBindings.Text.Substitution
/-!
# Snake case

`snakeCase` splits a camel-case name into words with underscores and lowers it. The
splitting takes two scans: the first ends a run of capitals before the capital that
begins a word (`HTTPServer` becomes `HTTP_Server`), the second separates a small
letter or a digit from the capital behind it (`getURL` becomes `get_URL`).
-/
namespace ToolBindings.Naming
open Text

/-- The capital letters A to Z. -/
def isCapital (c : Char) : Bool := 'A' ≤ c && c ≤ 'Z'

/-- The small letters a to z. -/
def isSmall (c : Char) : Bool := 'a' ≤ c && c ≤ 'z'

/-- One or more capitals, as many as possible, and then a capital followed by a small
letter: an underscore goes between the two groups. A longer first group is tried
before the present one is taken as it is. -/
def acronymEnd : Pattern
  | [] => none
  | c :: rest =>
    if isCapital c then
      match acronymEnd rest with
      | some (replacement, size) => some (c :: replacement, size + 1)
      | none =>
        match rest with
        | capital :: small :: _ =>
          if isCapital capital && isSmall small then some ([c, '_', capital, small], 3) else none
        | _ => none
    else none

/-- A small letter or a decimal digit of any script, and then a capital: an underscore
goes between them. -/
def wordEnd : Pattern := fun text =>
  match text with
  | last :: capital :: _ =>
    if (isSmall last || isDecimal last) && isCapital capital then some ([last, '_', capital], 2)
    else none
  | _ => none

/-- The name with an underscore at every boundary between two words. -/
def splitWords (name : List Char) : List Char := substitute wordEnd (substitute acronymEnd name)

/-- The name in lower case with its words separated by underscores. -/
def snakeCase (name : List Char) : List Char := lowerCase (splitWords name)

end ToolBindings.Naming
