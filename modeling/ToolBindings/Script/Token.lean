/-!
# Tokens

The words of which a script is made, and the ways in which a text can fail to be one.

A script is read line by line. Deeper and shallower lines show as `indent` and `dedent`,
the end of a line as `newline`, and the end of the text as `finish`. What is no token
shows as `invalid`, behind which there are no more tokens.
-/
namespace ToolBindings.Script

/-- Why a text is not a script. -/
inductive Flaw where
  /-- The text does not have the form of a script. -/
  | form
  /-- A line begins at a column at which none may begin. -/
  | indentation
  /-- Whether a line is deeper than another depends on the width of a tab. -/
  | tabs
deriving DecidableEq, Repr

/-- What a numeral writes. A number with a fraction or an exponent is given as a whole
number and a power of ten. -/
inductive Numeral where
  | int (value : Nat)
  | float (digits : Nat) (exponent : Int)
  | imaginary (digits : Nat) (exponent : Int)
deriving DecidableEq, Repr

/-- How the text between two quotes is meant. -/
structure TextKind where
  /-- Backslashes stand for themselves. -/
  raw : Bool := false
  /-- The characters are octets. -/
  octets : Bool := false
  /-- Expressions in braces are put in. -/
  formatted : Bool := false
deriving DecidableEq, Repr

inductive Token where
  /-- A name that is no keyword, in normal form. -/
  | name (id : String)
  | keyword (word : String)
  | number (value : Numeral)
  /-- The text between two quotes, as it stands there. -/
  | text (kind : TextKind) (body : List Char)
  /-- An operator, a bracket or a mark between parts. -/
  | symbol (sign : String)
  | newline
  | indent
  | dedent
  | finish
  /-- No token. A `lasting` flaw outranks a flaw of the form that comes before it. -/
  | invalid (flaw : Flaw) (lasting : Bool)
deriving DecidableEq, Repr

end ToolBindings.Script
