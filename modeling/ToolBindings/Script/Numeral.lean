import ToolBindings.Script.Token
import ToolBindings.Text.Decimal
import ToolBindings.Text.Radix
/-!
# Numerals of a script

`Numeral.read?` takes a numeral off the front of a text: a whole number in base two, eight,
ten or sixteen, or a decimal number with a fraction, an exponent or both; a `j` behind a
decimal one makes it imaginary. Single underscores may stand between digits, and a decimal
whole number other than zero does not begin with zero.

What follows a numeral must not look like a part of it: a letter may follow only as the
first of a keyword that can stand behind a number.
-/
namespace ToolBindings.Script
open Text (isDigitOf maxDecimalDigits numberOf?)

/-- The digits of a base at the front of a text, and what follows them. Underscores are left
out; `none` if one of them is not followed by a digit. -/
def takeDigits (base : Nat) : List Char → Option (List Char × List Char)
  | [] => some ([], [])
  | ['_'] => none
  | '_' :: d :: rest =>
    if isDigitOf base d then (takeDigits base rest).map fun (digits, rest) => (d :: digits, rest)
    else none
  | c :: rest =>
    if isDigitOf base c then (takeDigits base rest).map fun (digits, rest) => (c :: digits, rest)
    else some ([], c :: rest)

/-- Whether a character is a part of a word, for all that the lexer knows: every character
beyond ASCII is taken for one at first. -/
def isWordPart (c : Char) : Bool := c.isAlphanum || c == '_' || 0x80 ≤ c.toNat

/-- The beginnings of the keywords that may follow a numeral without a blank. -/
def numeralFollowers : List String := ["and", "else", "for", "if", "in", "is", "not", "or"]

/-- Whether a text may follow a numeral. -/
def endsNumeral : List Char → Bool
  | [] => true
  | c :: rest => !isWordPart c || numeralFollowers.any (·.toList.isPrefixOf (c :: rest))

/-- A whole number in a base other than ten, behind its mark. -/
def readRadix? (base : Nat) (cs : List Char) : Option (Numeral × List Char) := do
  let (digits, rest) ← takeDigits base cs
  let value ← numberOf? base digits
  if digits ≠ [] ∧ endsNumeral rest then some (.int value, rest) else none

def beginsWithDigit (cs : List Char) : Bool := (cs.head?.map Char.isDigit).getD false

/-- The exponent at the front of a text, if there is one, and what follows it. -/
def readExponent? (cs : List Char) : Option (Option Int × List Char) :=
  match cs with
  | e :: rest =>
    if e = 'e' ∨ e = 'E' then
      let (sign, digits) : Option Int × List Char := match rest with
        | '-' :: rest => (some (-1), rest)
        | '+' :: rest => (some 1, rest)
        | rest => (none, rest)
      if beginsWithDigit digits then do
        let (digits, rest) ← takeDigits 10 digits
        let value ← numberOf? 10 digits
        some (some (sign.getD 1 * value), rest)
      else if sign.isNone ∧ endsNumeral cs then some (none, cs)
      else none
    else some (none, cs)
  | [] => some (none, [])

/-- The digits behind a decimal point at the front of a text, and what follows them. -/
def readFraction? (cs : List Char) : Option (List Char × List Char) :=
  if beginsWithDigit cs then takeDigits 10 cs else some ([], cs)

/-- The decimal number that begins with the given digits. -/
def readDecimal? (whole cs : List Char) : Option (Numeral × List Char) := do
  let (fraction, rest) ← match cs with
    | '.' :: rest => (readFraction? rest).map fun (digits, rest) => (some digits, rest)
    | rest => some (none, rest)
  let (power, rest) ← readExponent? rest
  let value ← numberOf? 10 (whole ++ fraction.getD [])
  let exponent := power.getD 0 - (fraction.getD []).length
  match rest with
  | 'j' :: rest | 'J' :: rest =>
    if endsNumeral rest then some (.imaginary value exponent, rest) else none
  | rest =>
    if !endsNumeral rest then none
    else if fraction.isSome ∨ power.isSome then some (.float value exponent, rest)
    else if whole.head? = some '0' ∧ value ≠ 0 ∨ maxDecimalDigits < whole.length then none
    else some (.int value, rest)

/-- The numeral at the front of a text, and what follows it. -/
def Numeral.read? : List Char → Option (Numeral × List Char)
  | '0' :: 'x' :: rest | '0' :: 'X' :: rest => readRadix? 16 rest
  | '0' :: 'o' :: rest | '0' :: 'O' :: rest => readRadix? 8 rest
  | '0' :: 'b' :: rest | '0' :: 'B' :: rest => readRadix? 2 rest
  | '.' :: rest => readDecimal? [] ('.' :: rest)
  | cs => do
    let (whole, rest) ← takeDigits 10 cs
    readDecimal? whole rest

end ToolBindings.Script
