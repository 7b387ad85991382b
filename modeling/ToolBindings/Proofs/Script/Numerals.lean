import ToolBindings.Proofs.Script.Lexing
import ToolBindings.Script.Lexer

/-!
# Numbers are read back

The decimal digits of a number are one token, as long as there are not too many of them.

* `numberOf?_decimalDigits`: the value of the digits.
* `read?_decimalDigits`, `readToken_decimalDigits`: the numeral, and the token that it is.
-/
namespace ToolBindings.Script
open Text (decimalDigits decimalLimit maxDecimalDigits)

section
variable {n : Nat} {rest : List Char}

theorem length_decimalDigits_le {k n : Nat} (h : n < decimalLimit k) (hk : 0 < k) :
    (decimalDigits n).length ≤ k := by
  induction k generalizing n with
  | zero => cases hk
  | succ k ih =>
    rw [decimalDigits]
    split
    · exact Nat.le_add_left 1 k
    · next hn =>
      have hpow : decimalLimit (k + 1) = decimalLimit k * 10 := rfl
      have hlt : n / 10 < decimalLimit k := Nat.div_lt_of_lt_mul (by omega)
      have hpos : 0 < k := Nat.pos_of_ne_zero (by rintro rfl; change n < 10 at h; omega)
      rw [List.length_append]
      exact Nat.succ_le_succ (ih hlt hpos)

theorem isDigitOf_of_isDigit {c : Char} (h : c.isDigit = true) :
    Text.digitOf? 10 c = some (c.toNat - '0'.toNat) := by
  have hlt : c.toNat - '0'.toNat < 10 := by
    rw [Char.isDigit, Bool.and_eq_true, decide_eq_true_eq, decide_eq_true_eq] at h
    have hle : c.toNat ≤ '9'.toNat := h.2
    have hnine : '9'.toNat = 57 := rfl
    have hzero : '0'.toNat = 48 := rfl
    omega
  rw [Text.digitOf?, Text.digitValue?, if_pos h, Option.filter_some, if_pos (decide_eq_true hlt)]

theorem numberOf?_decimalDigits (n : Nat) : Text.numberOf? 10 (decimalDigits n) = some n := by
  have hmap (digits : List Char) (h : ∀ c ∈ digits, c.isDigit = true) :
      digits.mapM (Text.digitOf? 10) = some (digits.map fun c => c.toNat - '0'.toNat) := by
    induction digits with
    | nil => rfl
    | cons c digits ih =>
      obtain ⟨hc, hdigits⟩ := List.forall_mem_cons.1 h
      rw [List.mapM_cons, isDigitOf_of_isDigit hc, ih hdigits]
      rfl
  rw [Text.numberOf?, hmap _ (List.all_eq_true.1 (Text.all_isDigit_decimalDigits n)),
    Option.map_some, List.foldl_map]
  exact congrArg some (Text.foldl_decimalDigits n)

theorem isDigitOf_eq_false {c : Char} (h : isWordPart c = false) : Text.isDigitOf 10 c = false := by
  simp only [isWordPart, Char.isAlphanum, Bool.or_eq_false_iff] at h
  obtain ⟨⟨⟨halpha, hdigit⟩, -⟩, -⟩ := h
  obtain ⟨hupper, hlower⟩ := Bool.or_eq_false_iff.1 halpha
  simp [Text.isDigitOf, Text.digitOf?, Text.digitValue?, hdigit, hlower, hupper]

/-- Digits are taken off as far as they go. -/
theorem takeDigits_append {digits : List Char} (h : ∀ c ∈ digits, c.isDigit = true)
    (hrest : ∀ c ∈ rest.head?, isWordPart c = false) :
    takeDigits 10 (digits ++ rest) = some (digits, rest) := by
  induction digits with
  | nil =>
    cases rest with
    | nil => rfl
    | cons c rest =>
      have hc := hrest c rfl
      have hmark : c ≠ '_' := by rintro rfl; exact Bool.false_ne_true hc.symm
      rw [List.nil_append, takeDigits, if_neg (by rw [isDigitOf_eq_false hc]; exact nofun)]
      · rintro rfl; exact absurd rfl hmark
      · rintro _ _ rfl; exact absurd rfl hmark
  | cons c digits ih =>
    obtain ⟨hc, hdigits⟩ := List.forall_mem_cons.1 h
    have hmark : c ≠ '_' := by rintro rfl; exact Bool.false_ne_true hc
    have hdigit : Text.isDigitOf 10 c = true := by rw [Text.isDigitOf, isDigitOf_of_isDigit hc]; rfl
    rw [List.cons_append, takeDigits, if_pos hdigit, ih hdigits]
    · rfl
    · rintro rfl; exact absurd rfl hmark
    · rintro _ _ rfl; exact absurd rfl hmark

/-- Behind a numeral comes neither a point nor an exponent. -/
theorem readDecimal?_digits {digits : List Char} (hvalue : Text.numberOf? 10 digits = some n)
    (hzero : ¬ (digits.head? = some '0' ∧ n ≠ 0 ∨ maxDecimalDigits < digits.length))
    (hrest : ∀ c ∈ rest.head?, isWordPart c = false ∧ c ≠ '.') :
    readDecimal? digits rest = some (.int n, rest) := by
  cases rest with
  | nil => simp [readDecimal?, readExponent?, hvalue, endsNumeral, hzero]
  | cons c rest =>
    obtain ⟨hc, hdot⟩ := hrest c rfl
    have hne {d : Char} (hd : isWordPart d = true) : c ≠ d := by
      rintro rfl
      exact Bool.false_ne_true (hc.symm.trans hd)
    have he : ¬ (c = 'e' ∨ c = 'E') := not_or.2 ⟨hne rfl, hne rfl⟩
    have hends : endsNumeral (c :: rest) = true := by rw [endsNumeral, hc]; rfl
    have hj : c ≠ 'j' := hne rfl
    have hJ : c ≠ 'J' := hne rfl
    simp [readDecimal?, readExponent?, hvalue, hends, hzero, he, hdot, hj, hJ]

/-- A number is read as far as its numeral goes. -/
theorem read?_decimalDigits (h : n < decimalLimit maxDecimalDigits)
    (hrest : ∀ c ∈ rest.head?, isWordPart c = false ∧ c ≠ '.') :
    Numeral.read? (decimalDigits n ++ rest) = some (.int n, rest) := by
  have hdigits := List.all_eq_true.1 (Text.all_isDigit_decimalDigits n)
  have hlength := length_decimalDigits_le h (by decide)
  have hzero : ¬ ((decimalDigits n).head? = some '0' ∧ n ≠ 0 ∨
      maxDecimalDigits < (decimalDigits n).length) := by
    rintro (⟨hhead, hn⟩ | hlt)
    · exact hn (Text.head_decimalDigits n hhead)
    · omega
  have hdecimal := readDecimal?_digits (numberOf?_decimalDigits n) hzero hrest
  have htake := takeDigits_append hdigits fun c hc => (hrest c hc).1
  -- A letter behind a zero would be the mark of another base.
  have hmark (d : Char) (behind : List Char) (hd : d.isDigit = false) (hw : isWordPart d = true) :
      decimalDigits n ++ rest ≠ '0' :: d :: behind := by
    intro heq
    cases hn : decimalDigits n with
    | nil => exact Text.decimalDigits_ne_nil n hn
    | cons c others =>
      rw [hn, List.cons_append, List.cons.injEq] at heq
      cases others with
      | nil =>
        have := (hrest d (by rw [List.nil_append] at heq; rw [heq.2]; rfl)).1
        exact Bool.false_ne_true (this.symm.trans hw)
      | cons e others =>
        rw [List.cons_append, List.cons.injEq] at heq
        have := hdigits e (by rw [hn]; exact List.mem_cons_of_mem _ List.mem_cons_self)
        rw [heq.2.1, hd] at this
        exact Bool.false_ne_true this
  have hdot (behind : List Char) : decimalDigits n ++ rest ≠ '.' :: behind := by
    intro heq
    obtain ⟨c, others, hn⟩ := List.exists_cons_of_ne_nil (Text.decimalDigits_ne_nil n)
    rw [hn, List.cons_append, List.cons.injEq] at heq
    have := hdigits c (by rw [hn]; exact List.mem_cons_self)
    rw [heq.1] at this
    exact Bool.false_ne_true this
  rw [Numeral.read?, htake]
  · exact hdecimal
  · exact fun behind => hmark 'x' behind rfl rfl
  · exact fun behind => hmark 'X' behind rfl rfl
  · exact fun behind => hmark 'o' behind rfl rfl
  · exact fun behind => hmark 'O' behind rfl rfl
  · exact fun behind => hmark 'b' behind rfl rfl
  · exact fun behind => hmark 'B' behind rfl rfl
  · exact hdot

theorem readToken_decimalDigits (brackets : List Char) (h : n < decimalLimit maxDecimalDigits)
    (hrest : ∀ c ∈ rest.head?, endsWord c = true ∧ c ≠ '.') :
    readToken brackets (decimalDigits n ++ rest) = (.number (.int n), brackets, rest) := by
  have hdigits := List.all_eq_true.1 (Text.all_isDigit_decimalDigits n)
  have hparts : ∀ c ∈ decimalDigits n, isWordPart c = true := fun c hc => by
    simp [isWordPart, Char.isAlphanum, hdigits c hc]
  have hends : ∀ c ∈ rest.head?, isWordPart c = false ∧ c ≠ '.' := by
    intro c hc
    have := hrest c hc
    rw [endsWord, Bool.and_eq_true, Bool.not_eq_true'] at this
    exact ⟨this.1.1, this.2⟩
  have hfirst : beginsWithDigit (decimalDigits n ++ rest) = true := by
    obtain ⟨c, others, hn⟩ := List.exists_cons_of_ne_nil (Text.decimalDigits_ne_nil n)
    rw [hn]
    exact hdigits c (by rw [hn]; exact List.mem_cons_self)
  unfold readToken
  rw [textLetters?_eq_none hparts fun c hc => (hrest c hc).1]
  simp only [hfirst, true_or, if_true, read?_decimalDigits h hends]

end

end ToolBindings.Script
