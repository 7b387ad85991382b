import ToolBindings.Wire.Message
/-!
# What the fields of a message hold

Octets in a delimited record may be a message of their own, or integers one behind the
other. A layout says so for the fields of several kinds of messages; a delimited record
of any other number holds what it likes.

* `conforms`: whether a message is complete records from the first to the last, all the
  way down, and no part of it lies too deep.
* `records?_of_conforms`: a message that conforms can be read.
* `conforms_of_mem_payloads`: so can each message inside it.
-/
namespace ToolBindings.Wire

/-- What the octets of a delimited record have to be. -/
inductive Content (κ : Type) where
  | message (kind : κ)
  /-- Integers one behind the other, without tags. -/
  | integers

/-- What the fields hold: for each kind of message, by number. -/
abbrev Layout (κ : Type) := κ → Nat → Option (Content κ)

/-- Whether octets are complete integers from the first to the last. -/
def areIntegers : Octets → Bool
  | [] => true
  | octet :: tail =>
    match _ : Varint.read? maxValueOctets (octet :: tail) with
    | none => false
    | some (_, rest) => areIntegers rest
termination_by octets => octets.length
decreasing_by exact Varint.length_of_read ‹_›

variable {κ : Type}

/-- Whether octets are a message of one kind, with groups and messages nested up to the limit. -/
def conforms (layout : Layout κ) : Nat → κ → Octets → Bool
  | 0, kind, octets =>
    match records? 0 octets with
    | none => false
    | some records => records.all fun r =>
      match r.payload, layout kind r.number with
      | .delimited _, some (.message _) => false
      | .delimited part, some .integers => areIntegers part
      | _, _ => true
  | limit + 1, kind, octets =>
    match records? (limit + 1) octets with
    | none => false
    | some records => records.all fun r =>
      match r.payload, layout kind r.number with
      | .delimited part, some (.message inner) => conforms layout limit inner part
      | .delimited part, some .integers => areIntegers part
      | _, _ => true

theorem records?_of_conforms {layout : Layout κ} {limit : Nat} {kind : κ} {octets : Octets}
    (h : conforms layout limit kind octets = true) : (records? limit octets).isSome := by
  cases limit <;> rw [conforms] at h <;> split at h <;> simp_all

theorem conforms_of_mem_payloads {layout : Layout κ} {limit number : Nat} {kind inner : κ}
    {octets part : Octets} {records : List Record} (h : conforms layout limit kind octets = true)
    (hr : records? limit octets = some records) (hl : layout kind number = some (.message inner))
    (hp : part ∈ payloads number records) :
    ∃ lower, limit = lower + 1 ∧ conforms layout lower inner part = true := by
  obtain ⟨r, hm, he⟩ := List.mem_filterMap.1 hp
  split at he
  · next heq =>
    split at he
    · next hn =>
      simp only [Option.some.injEq] at he
      subst he
      cases limit with
      | zero =>
        rw [conforms, hr] at h
        have := List.all_eq_true.1 h r hm
        simp [heq, hn, hl] at this
      | succ lower =>
        rw [conforms, hr] at h
        have := List.all_eq_true.1 h r hm
        simp only [heq, hn, hl] at this
        exact ⟨lower, rfl, this⟩
    · simp at he
  · simp at he

end ToolBindings.Wire
