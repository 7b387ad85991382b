import ToolBindings.Wire.Encoding
import ToolBindings.Wire.Message
/-!
# Records are read back

A record that is written in front of other octets is read as that record, and the other
octets as they are read by themselves.

* `records?_uintRecord`: integers below 2^64.
* `records?_delimitedRecord`: octets, as many as five octets of length can count.
-/
namespace ToolBindings.Wire

/-- The numbers that a field can have: a tag is below 2^32. -/
def IsNumber (number : Nat) : Prop := 0 < number ∧ number < 1 <<< 29

theorem read_tag {number form : Nat} (hn : IsNumber number) (hf : form < 8) (rest : Octets) :
    Varint.read? maxTagOctets (tag number form ++ rest) = some (8 * number + form, rest) :=
  Varint.read_encode (by unfold IsNumber at hn; unfold maxTagOctets; omega) (by decide) rest

theorem tag_ne_nil (number form : Nat) : tag number form ≠ [] := by
  unfold tag
  rw [Varint.encode]
  split <;> simp

/-- A record in front is read and the rest is read by itself. -/
theorem scan_record {limit : Nat} {pending : List Nat} {octets rest : Octets} {r : Record}
    (hne : octets ≠ []) (hn : r.number ≠ 0)
    (h : Token.read? (octets ++ rest) = some (.record r, rest)) :
    scan limit pending (octets ++ rest) =
      (scan limit pending rest).map fun rs => if pending = [] then r :: rs else rs := by
  obtain ⟨octet, tail, rfl⟩ := List.exists_cons_of_ne_nil hne
  rw [List.cons_append] at h ⊢
  rw [scan]
  split <;> rename_i heq <;> rw [h] at heq <;> simp at heq
  obtain ⟨rfl, rfl⟩ := heq
  exact if_neg fun hz => hn hz.2

theorem records?_uintRecord {limit number value : Nat} (hn : IsNumber number) (hv : value < 1 <<< 64)
    (rest : Octets) :
    records? limit (uintRecord number value ++ rest) =
      (records? limit rest).map (⟨number, .varint value⟩ :: ·) := by
  have h : Token.read? (uintRecord number value ++ rest) =
      some (.record ⟨number, .varint value⟩, rest) := by
    have h0 : ¬1 <<< 32 ≤ 8 * number := by unfold IsNumber at hn; omega
    rw [uintRecord, List.append_assoc, Token.read?, read_tag hn (by decide)]
    simp only [Option.bind_eq_bind, Option.bind_some, Nat.add_zero,
      Nat.mul_div_cancel_left number (by decide : 0 < 8), if_neg h0, Nat.mul_mod_right]
    rw [Varint.read_encode (by unfold maxValueOctets; omega) (by decide), Option.bind_some]
    simp only [Nat.mod_eq_of_lt hv]
    rfl
  have hne : uintRecord number value ≠ [] := by simp [uintRecord, tag_ne_nil]
  rw [records?, scan_record hne (Nat.ne_of_gt hn.1) h]
  rfl

theorem records?_delimitedRecord {limit number : Nat} {octets : Octets} (hn : IsNumber number)
    (hl : octets.length < 1 <<< 35) (rest : Octets) :
    records? limit (delimitedRecord number octets ++ rest) =
      (records? limit rest).map (⟨number, .delimited octets⟩ :: ·) := by
  have h : Token.read? (delimitedRecord number octets ++ rest) =
      some (.record ⟨number, .delimited octets⟩, rest) := by
    have h0 : ¬1 <<< 32 ≤ 8 * number + 2 := by unfold IsNumber at hn; omega
    have hdiv : (8 * number + 2) / 8 = number := by omega
    have hmod : (8 * number + 2) % 8 = 2 := by omega
    rw [delimitedRecord, List.append_assoc, List.append_assoc, Token.read?, read_tag hn (by decide)]
    simp only [Option.bind_eq_bind, Option.bind_some, hdiv, if_neg h0, hmod]
    rw [Varint.read_encode (by unfold maxTagOctets; omega) (by decide)]
    simp [cut_length]
  have hne : delimitedRecord number octets ≠ [] := by simp [delimitedRecord, tag_ne_nil]
  rw [records?, scan_record hne (Nat.ne_of_gt hn.1) h]
  rfl

end ToolBindings.Wire
