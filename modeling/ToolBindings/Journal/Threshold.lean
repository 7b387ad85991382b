import ToolBindings.Text.Blank
import ToolBindings.Text.Digit
import ToolBindings.Text.LowerCase
/-!
# The log threshold

`threshold?` reads the user's choice of how much to log: the name of a level in any
case, or a number. Whatever is neither counts as a warning level, except that a text
made of digits alone has to be a number.
-/
namespace ToolBindings.Journal
open Text

/-- The threshold without a choice. -/
def warningLevel : Nat := 30

def levelNames : List (String × Nat) := [
  ("CRITICAL", 50), ("FATAL", 50), ("ERROR", 40), ("WARN", 30), ("WARNING", 30), ("INFO", 20),
  ("DEBUG", 10), ("NOTSET", 0)]

/-- The most digits that a number may have. -/
def maxLevelDigits : Nat := 4300

/-- The threshold that a text chooses; `none` if it is made of digits and is no number. -/
def threshold? (choice : String) : Option Nat :=
  let text := trimBlank choice.toList
  if text.isEmpty then some warningLevel
  else if text.all isDigit then
    if text.length ≤ maxLevelDigits then decimalNumber? text else none
  else some ((levelNames.lookup (String.ofList (text.map upperOne))).getD warningLevel)

end ToolBindings.Journal
