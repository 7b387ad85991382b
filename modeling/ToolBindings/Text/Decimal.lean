/-!
# Decimal numerals

How this library writes whole numbers: ASCII digits without leading zeros, and a
minus sign in front of a negative one.

* `foldl_decimalDigits`: the digits have the value of the number.
* `head_decimalDigits`: only the numeral of zero begins with a zero.
* `decimalDigits_eq_toDigits`: these are the digits of a number in base ten.
-/
namespace ToolBindings.Text

/-- The decimal digits of a number, most significant first. -/
def decimalDigits (n : Nat) : List Char :=
  if n < 10 then [Nat.digitChar n] else decimalDigits (n / 10) ++ [Nat.digitChar (n % 10)]

/-- The most digits of a number that is converted from or to decimal digits. -/
def maxDecimalDigits : Nat := 4300

/-- The first number with more than so many digits. -/
def decimalLimit (digits : Nat) : Nat := Nat.pow 10 digits

theorem decimalDigits_ne_nil (n : Nat) : decimalDigits n ≠ [] := by
  rw [decimalDigits]; split <;> simp

theorem isDigit_digitChar : ∀ d < 10,
    (Nat.digitChar d).isDigit = true ∧ (Nat.digitChar d).toNat - '0'.toNat = d := by
  decide

theorem all_isDigit_decimalDigits (n : Nat) : (decimalDigits n).all Char.isDigit = true := by
  induction n using Nat.strongRecOn with
  | ind n ih =>
    rw [decimalDigits]
    split
    · next h => simp [isDigit_digitChar n h]
    · next h =>
      rw [List.all_append, ih (n / 10) (by omega)]
      simp [isDigit_digitChar (n % 10) (by omega)]

theorem foldl_decimalDigits (n : Nat) :
    (decimalDigits n).foldl (fun n d => 10 * n + (d.toNat - '0'.toNat)) 0 = n := by
  induction n using Nat.strongRecOn with
  | ind n ih =>
    rw [decimalDigits]
    split
    · next h => simpa using (isDigit_digitChar n h).2
    · next h =>
      rw [List.foldl_append, ih (n / 10) (by omega), List.foldl_cons, List.foldl_nil,
        (isDigit_digitChar (n % 10) (by omega)).2]
      omega

theorem head_decimalDigits (n : Nat) (h : (decimalDigits n).head? = some '0') : n = 0 := by
  induction n using Nat.strongRecOn with
  | ind n ih =>
    rw [decimalDigits] at h
    split at h
    · next hn =>
      have key : ∀ n < 10, Nat.digitChar n = '0' → n = 0 := by decide
      exact key n hn (by simpa using h)
    · next hn =>
      rw [List.head?_append, Option.or_of_isSome (by simp [decimalDigits_ne_nil])] at h
      have := ih (n / 10) (by omega) h
      omega

theorem decimalDigits_eq_toDigits (n : Nat) : decimalDigits n = Nat.toDigits 10 n := by
  induction n using Nat.strongRecOn with
  | ind n ih =>
    rw [decimalDigits, Nat.toDigits_eq_if (by decide)]
    split
    · rfl
    · rw [ih (n / 10) (by omega)]

def integerNumeral : Int → List Char
  | .ofNat n => decimalDigits n
  | .negSucc n => '-' :: decimalDigits (n + 1)

/-- The lowest `width` hexadecimal digits of a number, with lower-case letters. -/
def hexDigits : Nat → Nat → List Char
  | 0, _ => []
  | width + 1, n => hexDigits width (n / 16) ++ [Nat.digitChar (n % 16)]

end ToolBindings.Text
