import ToolBindings.Text.Utf8
import ToolBindings.Wire.Record
/-!
# Messages as sequences of records

* `records?` reads a whole message and matches the group markers; it gives nothing
  unless all octets belong to complete records, and groups lie no deeper inside one
  another than is allowed.
* `uints`, `payloads` and `texts?` select the records of one number and form; a record
  of another form is passed over like one of another number.
* `length_of_mem_payloads`: a message inside a message is shorter than the outer one.
* `records?_append`: of two messages one behind the other, the records are those of the
  first and then those of the second.
-/
namespace ToolBindings.Wire

/-- The records up to the end, inside the groups that are still open, innermost first.
Only records outside all groups are given. They need a field number from 1 on, whereas
inside a group any number will do. -/
def scan (limit : Nat) (pending : List Nat) : Octets → Option (List Record)
  | [] => if pending = [] then some [] else none
  | octet :: tail =>
    match _ : Token.read? (octet :: tail) with
    | none => none
    | some (.record r, rest) =>
      if pending = [] ∧ r.number = 0 then none
      else (scan limit pending rest).map fun rs => if pending = [] then r :: rs else rs
    | some (.groupStart number, rest) =>
      if limit ≤ pending.length ∨ (pending = [] ∧ number = 0) then none
      else (scan limit (number :: pending) rest).map fun rs =>
        if pending = [] then ⟨number, .group⟩ :: rs else rs
    | some (.groupEnd number, rest) =>
      match pending with
      | [] => none
      | innermost :: outer => if innermost = number then scan limit outer rest else none
termination_by octets => octets.length
decreasing_by all_goals have := Token.size_of_read ‹_›; omega

/-- How deep messages and groups may lie inside the outermost message. -/
def maxNesting : Nat := 100

/-- The records of a message, if its octets are complete records from the first to the last.
Groups may be nested up to the limit. -/
def records? (limit : Nat) (octets : Octets) : Option (List Record) := scan limit [] octets

/-- Whether octets are complete records from the first to the last. -/
def isMessage (limit : Nat) (octets : Octets) : Bool := (records? limit octets).isSome

def uints (number : Nat) (records : List Record) : List Nat :=
  records.filterMap fun r =>
    match r.payload with
    | .varint value => if r.number = number then some value else none
    | _ => none

def payloads (number : Nat) (records : List Record) : List Octets :=
  records.filterMap fun r =>
    match r.payload with
    | .delimited octets => if r.number = number then some octets else none
    | _ => none

def texts? (number : Nat) (records : List Record) : Option (List String) :=
  (payloads number records).mapM Text.ofUtf8?

/-- The last text of one number counts; without any, the text is empty. -/
def text? (number : Nat) (records : List Record) : Option String :=
  (texts? number records).map fun texts => texts.getLastD ""

/-- The last integer of one number counts, and any but zero is true. -/
def flag (number : Nat) (records : List Record) : Bool := (uints number records).getLastD 0 ≠ 0

/-- The parts of one message that is spread over several records, put together. -/
def merged (number : Nat) (records : List Record) : Octets := (payloads number records).flatten

theorem size_of_scan {limit : Nat} {pending : List Nat} {octets : Octets} {records : List Record}
    (h : scan limit pending octets = some records) :
    ∀ r ∈ records, r.payload.size < octets.length := by
  fun_induction scan limit pending octets generalizing records with
  | case1 => simp_all
  | case2 => simp_all
  | case3 => simp_all
  | case4 => simp at h
  | case5 pending octet tail r rest hr _ ih =>
    obtain ⟨rs, hrs, rfl⟩ := Option.map_eq_some_iff.1 h
    have hlt := Token.size_of_read hr
    simp only [Token.size] at hlt
    intro r' hr'
    split at hr'
    · rcases List.mem_cons.1 hr' with rfl | hm
      · omega
      · have := ih hrs r' hm; omega
    · have := ih hrs r' hr'; omega
  | case6 => simp at h
  | case7 pending octet tail number rest hr _ ih =>
    obtain ⟨rs, hrs, rfl⟩ := Option.map_eq_some_iff.1 h
    have hlt := Token.size_of_read hr
    intro r' hr'
    split at hr'
    · rcases List.mem_cons.1 hr' with rfl | hm
      · simp [Payload.size]
      · have := ih hrs r' hm; omega
    · have := ih hrs r' hr'; omega
  | case8 => simp at h
  | case9 octet tail rest innermost outer hr ih =>
    have hlt := Token.size_of_read hr
    intro r' hr'
    have := ih h r' hr'
    omega
  | case10 => simp at h

theorem length_of_mem_payloads {limit number : Nat} {octets payload : Octets}
    {records : List Record} (h : records? limit octets = some records)
    (hp : payload ∈ payloads number records) : payload.length < octets.length := by
  obtain ⟨r, hr, he⟩ := List.mem_filterMap.1 hp
  have := size_of_scan h r hr
  split at he
  · next heq =>
    split at he
    · simp only [Option.some.injEq] at he
      simpa [heq, Payload.size, he] using this
    · simp at he
  · simp at he

/-- A message behind the end of all open groups is read by itself. -/
theorem scan_append {limit : Nat} {pending : List Nat} {octets : Octets} {records : List Record}
    (more : Octets) (h : scan limit pending octets = some records) :
    scan limit pending (octets ++ more) = (scan limit [] more).map (records ++ ·) := by
  fun_induction scan limit pending octets generalizing records with
  | case1 => simp_all
  | case2 => simp_all
  | case3 => simp_all
  | case4 => simp at h
  | case5 pending octet tail r rest hr hn ih =>
    obtain ⟨rs, hrs, rfl⟩ := Option.map_eq_some_iff.1 h
    have hr' := Token.read_append more hr
    rw [List.cons_append] at hr' ⊢
    rw [scan]
    split <;> rename_i heq <;> rw [hr'] at heq <;> simp at heq
    obtain ⟨rfl, rfl⟩ := heq
    rw [if_neg hn, ih hrs, Option.map_map]
    congr 1
    funext xs
    split <;> simp_all
  | case6 => simp at h
  | case7 pending octet tail number rest hr hn ih =>
    obtain ⟨rs, hrs, rfl⟩ := Option.map_eq_some_iff.1 h
    have hr' := Token.read_append more hr
    rw [List.cons_append] at hr' ⊢
    rw [scan]
    split <;> rename_i heq <;> rw [hr'] at heq <;> simp at heq
    obtain ⟨rfl, rfl⟩ := heq
    rw [if_neg hn, ih hrs, Option.map_map]
    congr 1
    funext xs
    split <;> simp_all
  | case8 => simp at h
  | case9 octet tail rest innermost outer hr ih =>
    have hr' := Token.read_append more hr
    rw [List.cons_append] at hr' ⊢
    rw [scan]
    split <;> rename_i heq <;> rw [hr'] at heq <;> simp at heq
    obtain ⟨rfl, rfl⟩ := heq
    simp [ih h]
  | case10 => simp at h

/-- The records of a message come before those of what is put behind it. -/
theorem records?_append {limit : Nat} {octets : Octets} {records : List Record} (more : Octets)
    (h : records? limit octets = some records) :
    records? limit (octets ++ more) = (records? limit more).map (records ++ ·) :=
  scan_append more h

end ToolBindings.Wire
