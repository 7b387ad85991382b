import ToolBindings.Text.Identifier.Table
/-!
# Identifiers and keywords

What the language of the generated modules admits as a name.
-/
namespace ToolBindings.Text

def isIdentifierStart (c : Char) : Bool := identifierStarts.covers c

/-- Whether an identifier may go on with the character. -/
def isIdentifierPart (c : Char) : Bool := identifierStarts.covers c || identifierFollowers.covers c

/-- Whether a text has the form of an identifier, keyword or not. -/
def isIdentifier : List Char → Bool
  | [] => false
  | c :: rest => isIdentifierStart c && rest.all isIdentifierPart

/-- The words that have the form of an identifier and are not available as names. -/
def keywords : List String := [
  "False", "None", "True", "and", "as", "assert", "async", "await", "break", "class", "continue",
  "def", "del", "elif", "else", "except", "finally", "for", "from", "global", "if", "import", "in",
  "is", "lambda", "nonlocal", "not", "or", "pass", "raise", "return", "try", "while", "with",
  "yield"]

def isKeyword (text : List Char) : Bool := keywords.any (·.toList == text)

end ToolBindings.Text
