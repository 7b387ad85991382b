import ToolBindings.Octets
/-!
# Variable-length integers

Base-128 integers, least significant group first: seven bits per octet, and the high
bit on every octet but the last. The writer uses the shortest form; the reader takes
longer ones too, up to a given number of octets.

* `read_encode`: the reader undoes the writer, whatever follows.
* `length_of_read`: reading consumes at least one octet.
* `read_append`: what follows a number does not matter.
-/
namespace ToolBindings.Wire

namespace Varint

def encode (n : Nat) : Octets :=
  if n < 128 then [UInt8.ofNat n] else UInt8.ofNat (n % 128 + 128) :: encode (n / 128)

/-- A number of at most `limit` octets from the front, and what follows it. -/
def read? : Nat → Octets → Option (Nat × Octets)
  | 0, _ => none
  | _, [] => none
  | limit + 1, octet :: rest =>
    if octet.toNat < 128 then some (octet.toNat, rest)
    else (read? limit rest).map fun (high, rest) => (octet.toNat % 128 + 128 * high, rest)

theorem read_encode {n limit : Nat} (h : n < 1 <<< (7 * limit)) (hl : 0 < limit) (rest : Octets) :
    read? limit (encode n ++ rest) = some (n, rest) := by
  rw [Nat.one_shiftLeft] at h
  induction limit generalizing n with
  | zero => omega
  | succ limit ih =>
    rw [encode]
    split
    · next hn =>
      have : (UInt8.ofNat n).toNat = n := by rw [UInt8.toNat_ofNat']; omega
      simp [read?, this, hn]
    · next hn =>
      have hb : (UInt8.ofNat (n % 128 + 128)).toNat = n % 128 + 128 := by
        rw [UInt8.toNat_ofNat']; omega
      have hq : n / 128 < 2 ^ (7 * limit) := by
        rw [Nat.div_lt_iff_lt_mul (by decide)]
        rwa [Nat.mul_succ, Nat.pow_add] at h
      have hpos : 0 < limit := by
        rcases limit with _ | limit
        · simp at hq; omega
        · omega
      rw [List.cons_append, read?, if_neg (by omega), ih hq hpos]
      simp only [Option.map_some, hb]
      congr 2
      omega

theorem length_of_read {limit n : Nat} {octets rest : Octets}
    (h : read? limit octets = some (n, rest)) : rest.length < octets.length := by
  induction limit generalizing octets rest n with
  | zero => simp [read?] at h
  | succ limit ih =>
    match octets with
    | [] => simp [read?] at h
    | octet :: tail =>
      rw [read?] at h
      split at h
      · simp only [Option.some.injEq, Prod.mk.injEq] at h
        simp [← h.2]
      · obtain ⟨⟨high, rest'⟩, hr, he⟩ := Option.map_eq_some_iff.1 h
        simp only [Prod.mk.injEq] at he
        have := ih hr
        rw [← he.2, List.length_cons]
        omega

/-- More octets behind a complete integer do not change it. -/
theorem read_append {limit n : Nat} {octets rest : Octets} (more : Octets)
    (h : read? limit octets = some (n, rest)) :
    read? limit (octets ++ more) = some (n, rest ++ more) := by
  induction limit generalizing octets n rest with
  | zero => simp [read?] at h
  | succ limit ih =>
    match octets with
    | [] => simp [read?] at h
    | octet :: tail =>
      rw [List.cons_append, read?]
      rw [read?] at h
      split at h
      · next hlt =>
        simp only [Option.some.injEq, Prod.mk.injEq] at h
        rw [if_pos hlt, h.1, h.2]
      · next hlt =>
        obtain ⟨⟨high, rest'⟩, hr, he⟩ := Option.map_eq_some_iff.1 h
        simp only [Prod.mk.injEq] at he
        rw [if_neg hlt, ih hr, Option.map_some, ← he.1, ← he.2]

end Varint

end ToolBindings.Wire
