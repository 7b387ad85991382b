import ToolBindings.Script.Token
import ToolBindings.Text.Decimal
/-!
# Numerals with a fraction

How a number with a fraction is read and written. It is written with the fewest digits from
which it can be read back, as a plain numeral if it is neither very large nor very small.
-/
namespace ToolBindings.Script
open Text (decimalDigits)

/-- The number that digits and a power of ten make. Beyond the range of exponents the number
is infinite or zero, whatever the exponent is. -/
def floatOf (digits : Nat) (exponent : Int) : Float :=
  let reach : Int := 800 + (digits.log2 : Int)
  let exponent := max (-reach) (min reach exponent)
  if digits = 0 then 0 else Float.ofScientific digits (exponent < 0) exponent.natAbs

/-- The value of a finite number without its sign, as a fraction. -/
def fractionOf (x : Float) : Nat × Nat :=
  let bits := x.toBits.toNat % (1 <<< 63)
  let power := bits / (1 <<< 52)
  let mantissa := if power = 0 then bits else bits % (1 <<< 52) + (1 <<< 52)
  let power := max power 1
  if power ≥ 1075 then (mantissa <<< (power - 1075), 1) else (mantissa, 1 <<< (1075 - power))

/-- The whole part of a finite number. -/
def truncated (x : Float) : Int :=
  let (numerator, denominator) := fractionOf x
  if x < 0 then -(numerator / denominator : Nat) else (numerator / denominator : Nat)

/-- A quotient to the nearest whole number, or of two that are as near to the even one. -/
def roundedDiv (numerator denominator : Nat) : Nat :=
  let quotient := numerator / denominator
  let twice := 2 * (numerator % denominator)
  if twice > denominator ∨ twice = denominator ∧ quotient % 2 = 1 then quotient + 1 else quotient

/-- A fraction times a power of ten, rounded. -/
def roundedAt (fraction : Nat × Nat) (power : Int) : Nat :=
  if power ≥ 0 then roundedDiv (fraction.1 * Nat.pow 10 power.toNat) fraction.2
  else roundedDiv fraction.1 (fraction.2 * Nat.pow 10 (-power).toNat)

/-- The power of ten of the first digit of a fraction that is not zero. -/
def leadingPower (fraction : Nat × Nat) : Int :=
  let guess : Int := (decimalDigits fraction.1).length - (decimalDigits fraction.2).length
  let reached :=
    if guess ≥ 0 then fraction.2 * Nat.pow 10 guess.toNat ≤ fraction.1
    else fraction.2 ≤ fraction.1 * Nat.pow 10 (-guess).toNat
  if reached then guess else guess - 1

/-- A number of digits of a fraction that is not zero, and the power of ten of the first one. -/
def significant (fraction : Nat × Nat) (count : Nat) : Nat × Int :=
  let power := leadingPower fraction
  let digits := roundedAt fraction (count - 1 - power)
  if digits ≥ Nat.pow 10 count then (digits / 10, power + 1) else (digits, power)

/-- The fewest digits from which a finite number that is not zero can be read back; seventeen
are always enough. -/
def shortest (x : Float) : Nat × Int :=
  let fraction := fractionOf x
  let counts := (List.range 16).map (· + 1)
  let fits := fun count =>
    let (digits, power) := significant fraction count
    floatOf digits (power - count + 1) == x.abs
  significant fraction ((counts.find? fits).getD 17)

/-- Digits without the zeros at their end. -/
def withoutZeros (digits : List Char) : List Char :=
  (digits.reverse.dropWhile (· = '0')).reverse

/-- An exponent, with a sign and two digits at least. -/
def exponentText (power : Int) : List Char :=
  let digits := decimalDigits power.natAbs
  (if power < 0 then '-' else '+') :: List.replicate (2 - digits.length) '0' ++ digits

/-- Digits with a point behind some of them. A part without digits is a zero. -/
def pointedText (digits : List Char) (power : Int) : List Char :=
  if power < 0 then '0' :: '.' :: List.replicate (-power - 1).toNat '0' ++ digits
  else
    let whole := digits.take (power.toNat + 1)
    let fraction := digits.drop (power.toNat + 1)
    whole ++ List.replicate (power.toNat + 1 - digits.length) '0' ++ '.' ::
      (if fraction = [] then ['0'] else fraction)

def floatText (x : Float) : String :=
  let sign := if x.toBits.toNat ≥ 1 <<< 63 && !x.isNaN then ['-'] else []
  let body :=
    if x.isNaN then "nan".toList
    else if x.isInf then "inf".toList
    else if x == 0 then "0.0".toList
    else
      let (digits, power) := shortest x
      let digits := withoutZeros (decimalDigits digits)
      if -4 ≤ power ∧ power < 16 then pointedText digits power
      else
        let fraction := digits.drop 1
        digits.take 1 ++ (if fraction = [] then [] else '.' :: fraction) ++
          'e' :: exponentText power
  String.ofList (sign ++ body)

/-- A finite number with a fixed number of digits behind the point, without its sign. -/
def fixedText (x : Float) (places : Nat) : List Char :=
  let digits := decimalDigits (roundedAt (fractionOf x) places)
  let digits := List.replicate (places + 1 - digits.length) '0' ++ digits
  let whole := digits.length - places
  digits.take whole ++ (if places = 0 then [] else '.' :: digits.drop whole)

/-- A finite number with an exponent and a fixed number of digits behind the point, without its
sign. -/
def scientificText (x : Float) (places : Nat) : List Char :=
  let (digits, power) := if x == 0 then (0, 0) else significant (fractionOf x) (places + 1)
  let digits := decimalDigits digits
  let digits := digits ++ List.replicate (places + 1 - digits.length) '0'
  digits.take 1 ++ (if places = 0 then [] else '.' :: digits.drop 1) ++ 'e' :: exponentText power

/-- A finite number with a number of digits in all, plainly if it is neither very large nor very
small, without its sign. -/
def generalText (x : Float) (count : Nat) : List Char :=
  let count := max count 1
  let (digits, power) := if x == 0 then (0, 0) else significant (fractionOf x) count
  let digits := withoutZeros (decimalDigits digits)
  let digits := if digits = [] then ['0'] else digits
  if -4 ≤ power ∧ power < count then
    let text := pointedText digits power
    if digits.length ≤ power.toNat + 1 ∧ power ≥ 0 then text.take (text.length - 2) else text
  else
    digits.take 1 ++ (if digits.length = 1 then [] else '.' :: digits.drop 1) ++
      'e' :: exponentText power

end ToolBindings.Script
