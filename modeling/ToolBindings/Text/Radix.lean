/-!
# Numbers in other bases

ASCII digits and letters as digits, the letters counting from ten, and the number that
a sequence of them writes.
-/
namespace ToolBindings.Text

/-- The value of a digit or letter as a digit, whatever the base. -/
def digitValue? (c : Char) : Option Nat :=
  if c.isDigit then some (c.toNat - '0'.toNat)
  else if c.isLower then some (c.toNat - 'a'.toNat + 10)
  else if c.isUpper then some (c.toNat - 'A'.toNat + 10)
  else none

def digitOf? (base : Nat) (c : Char) : Option Nat := (digitValue? c).filter (· < base)

def isDigitOf (base : Nat) (c : Char) : Bool := (digitOf? base c).isSome

/-- The number that digits of a base write; `none` if another character occurs. -/
def numberOf? (base : Nat) (digits : List Char) : Option Nat :=
  (digits.mapM (digitOf? base)).map fun values => values.foldl (fun n d => base * n + d) 0

/-- The number that hexadecimal digits write; other characters count as zero. -/
def hexNumber (digits : List Char) : Nat :=
  digits.foldl (fun n c => 16 * n + (digitOf? 16 c).getD 0) 0

end ToolBindings.Text
