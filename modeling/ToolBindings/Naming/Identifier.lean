import ToolBindings.Naming.SnakeCase
import ToolBindings.Text.Blank
import ToolBindings.Text.Identifier
/-!
# Identifiers made from names

`segment` reduces any text to small letters, digits and single underscores inside;
`identifier` joins segments to a name that the generated module can use.
-/
namespace ToolBindings.Naming
open Text

def isSegmentChar (c : Char) : Bool := isSmall c || c.isDigit || c == '_'

/-- Every run of underscores as a single one. -/
def collapse : List Char → List Char
  | [] => []
  | c :: rest =>
    if c = '_' ∧ rest.head? = some '_' then collapse rest else c :: collapse rest

/-- One part of an identifier: snake case, a dot or a hyphen counting as an underscore,
all other characters dropped. -/
def segment (name : List Char) : List Char :=
  let separated := (snakeCase name).map fun c => if c = '.' ∨ c = '-' then '_' else c
  trim (· == '_') (collapse (separated.filter isSegmentChar))

/-- Whether a text cannot stand as a name: it is empty, begins with a digit, or is a keyword. -/
def needsUnderscore (name : List Char) : Bool :=
  match name with
  | [] => true
  | c :: _ => c.isDigit || isKeyword name

/-- The names' segments joined by underscores, the empty ones left out, behind an
underscore if the result could not stand as a name. -/
def identifier (names : List (List Char)) : List Char :=
  let joined := ['_'].intercalate ((names.map segment).filter (· ≠ []))
  if needsUnderscore joined then '_' :: joined else joined

end ToolBindings.Naming
