import ToolBindings.Wire.Varint
/-!
# Records

A message on the wire is a sequence of records. Each has a field number and a payload
in one of five forms; the form says how long the payload is, so a reader can pass over
records that it does not know. A group is a sequence of records between a start and an
end marker of one number.

* `Token.read?` reads one record or marker, and gives nothing if it is not complete.
* `Token.size_of_read`: it never looks past the end, and what it holds and what it
  leaves is less than what it was given.
* `Token.read_append`: what follows a record or marker does not matter.
-/
namespace ToolBindings.Wire

/-- What a record carries. -/
inductive Payload where
  /-- An unsigned integer below 2^64. -/
  | varint (value : Nat)
  | fixed64 (octets : Octets)
  /-- Any number of octets: text, or a message. -/
  | delimited (octets : Octets)
  /-- Records between two markers. They are checked and not kept. -/
  | group
  | fixed32 (octets : Octets)
deriving DecidableEq, Repr

/-- A payload with the number of the field that it belongs to. -/
structure Record where
  number : Nat
  payload : Payload
deriving DecidableEq, Repr

/-- What is found at the front of a sequence of records. -/
inductive Token where
  | record (record : Record)
  | groupStart (number : Nat)
  | groupEnd (number : Nat)
deriving DecidableEq, Repr

/-- Cuts off the given number of octets, if there are so many. -/
def cut? : Nat → Octets → Option (Octets × Octets)
  | 0, octets => some ([], octets)
  | _ + 1, [] => none
  | n + 1, octet :: rest => (cut? n rest).map fun (front, rest) => (octet :: front, rest)

def maxTagOctets : Nat := 5

/-- The most octets of an integer payload. -/
def maxValueOctets : Nat := 10

/-- The record or marker at the front, and what follows it. A tag is a number below 2^32
that holds the field number and, in its low three bits, the form; there are no forms 6
and 7. -/
def Token.read? (octets : Octets) : Option (Token × Octets) := do
  let (tag, rest) ← Varint.read? maxTagOctets octets
  let number := tag / 8
  if 1 <<< 32 ≤ tag then none
  else match tag % 8 with
    | 0 =>
      let (value, rest) ← Varint.read? maxValueOctets rest
      return (.record ⟨number, .varint (value % (1 <<< 64))⟩, rest)
    | 1 =>
      let (front, rest) ← cut? 8 rest
      return (.record ⟨number, .fixed64 front⟩, rest)
    | 2 =>
      let (size, rest) ← Varint.read? maxTagOctets rest
      let (front, rest) ← cut? size rest
      return (.record ⟨number, .delimited front⟩, rest)
    | 3 => return (.groupStart number, rest)
    | 4 => return (.groupEnd number, rest)
    | 5 =>
      let (front, rest) ← cut? 4 rest
      return (.record ⟨number, .fixed32 front⟩, rest)
    | _ => none

/-- The number of octets that a payload holds as a whole. -/
def Payload.size : Payload → Nat
  | varint _ | group => 0
  | fixed64 octets | delimited octets | fixed32 octets => octets.length

theorem length_of_cut {n : Nat} {octets front rest : Octets}
    (h : cut? n octets = some (front, rest)) : octets.length = front.length + rest.length := by
  induction n generalizing octets front rest with
  | zero => simp [cut?] at h; simp [h.1, h.2]
  | succ n ih =>
    match octets with
    | [] => simp [cut?] at h
    | octet :: tail =>
      obtain ⟨⟨front', rest'⟩, hr, he⟩ := Option.map_eq_some_iff.1 h
      simp only [Prod.mk.injEq] at he
      have := ih hr
      rw [← he.1, ← he.2, List.length_cons, List.length_cons]
      omega

/-- The number of octets that a token holds beside its tag. -/
def Token.size : Token → Nat
  | record r => r.payload.size
  | groupStart _ | groupEnd _ => 0

theorem Token.size_of_read {octets rest : Octets} {token : Token}
    (h : Token.read? octets = some (token, rest)) : token.size + rest.length < octets.length := by
  simp only [Token.read?, Option.bind_eq_bind, Option.bind_eq_some_iff, Prod.exists] at h
  obtain ⟨word, rest₁, h₁, h⟩ := h
  have := Varint.length_of_read h₁
  split at h
  · simp at h
  split at h
  · simp only [Option.bind_eq_some_iff, Prod.exists] at h
    obtain ⟨value, rest₂, h₂, h⟩ := h
    have := Varint.length_of_read h₂
    simp only [Option.pure_def, Option.some.injEq, Prod.mk.injEq] at h
    obtain ⟨rfl, rfl⟩ := h
    simp only [Token.size, Payload.size]; omega
  · simp only [Option.bind_eq_some_iff, Prod.exists] at h
    obtain ⟨front, rest₂, h₂, h⟩ := h
    have := length_of_cut h₂
    simp only [Option.pure_def, Option.some.injEq, Prod.mk.injEq] at h
    obtain ⟨rfl, rfl⟩ := h
    simp only [Token.size, Payload.size]; omega
  · simp only [Option.bind_eq_some_iff, Prod.exists] at h
    obtain ⟨size, rest₂, h₂, front, rest₃, h₃, h⟩ := h
    have := Varint.length_of_read h₂
    have := length_of_cut h₃
    simp only [Option.pure_def, Option.some.injEq, Prod.mk.injEq] at h
    obtain ⟨rfl, rfl⟩ := h
    simp only [Token.size, Payload.size]; omega
  · simp only [Option.pure_def, Option.some.injEq, Prod.mk.injEq] at h
    obtain ⟨rfl, rfl⟩ := h
    simp only [Token.size]; omega
  · simp only [Option.pure_def, Option.some.injEq, Prod.mk.injEq] at h
    obtain ⟨rfl, rfl⟩ := h
    simp only [Token.size]; omega
  · simp only [Option.bind_eq_some_iff, Prod.exists] at h
    obtain ⟨front, rest₂, h₂, h⟩ := h
    have := length_of_cut h₂
    simp only [Option.pure_def, Option.some.injEq, Prod.mk.injEq] at h
    obtain ⟨rfl, rfl⟩ := h
    simp only [Token.size, Payload.size]; omega
  · simp at h

theorem cut_append {n : Nat} {octets front rest : Octets} (more : Octets)
    (h : cut? n octets = some (front, rest)) :
    cut? n (octets ++ more) = some (front, rest ++ more) := by
  induction n generalizing octets front rest with
  | zero => simp [cut?] at h; simp [cut?, h]
  | succ n ih =>
    match octets with
    | [] => simp [cut?] at h
    | octet :: tail =>
      obtain ⟨⟨front', rest'⟩, hr, he⟩ := Option.map_eq_some_iff.1 h
      simp only [Prod.mk.injEq] at he
      rw [List.cons_append, cut?, ih hr, Option.map_some, ← he.1, ← he.2]

theorem cut_length (front rest : Octets) :
    cut? front.length (front ++ rest) = some (front, rest) := by
  induction front with
  | nil => rfl
  | cons octet front ih => rw [List.length_cons, List.cons_append, cut?, ih]; rfl

/-- More octets behind a complete record or marker do not change it. -/
theorem Token.read_append {octets rest : Octets} {token : Token} (more : Octets)
    (h : Token.read? octets = some (token, rest)) :
    Token.read? (octets ++ more) = some (token, rest ++ more) := by
  simp only [Token.read?, Option.bind_eq_bind, Option.bind_eq_some_iff, Prod.exists] at h
  obtain ⟨word, rest₁, h₁, h⟩ := h
  simp only [Token.read?, Varint.read_append more h₁, Option.bind_eq_bind, Option.bind_some]
  split at h
  · simp at h
  rw [if_neg ‹_›]
  split at h
  · simp only [Option.bind_eq_some_iff, Prod.exists] at h
    obtain ⟨value, rest₂, h₂, h⟩ := h
    simp_all [Varint.read_append more h₂]
  · simp only [Option.bind_eq_some_iff, Prod.exists] at h
    obtain ⟨front, rest₂, h₂, h⟩ := h
    simp_all [cut_append more h₂]
  · simp only [Option.bind_eq_some_iff, Prod.exists] at h
    obtain ⟨size, rest₂, h₂, front, rest₃, h₃, h⟩ := h
    simp_all [Varint.read_append more h₂, cut_append more h₃]
  · simp_all
  · simp_all
  · simp only [Option.bind_eq_some_iff, Prod.exists] at h
    obtain ⟨front, rest₂, h₂, h⟩ := h
    simp_all [cut_append more h₂]
  · simp at h

end ToolBindings.Wire
