import ToolBindings.Proofs.Wire.Selection
import ToolBindings.Wire.Layout
import ToolBindings.Wire.RoundTrip

/-!
# What is written is read back

Octets write some records if those records are read from them, whatever comes behind.
Records that are written one behind the other are read one behind the other.

* `Writes`: the records that octets write; `Writes.append`, `writes_uintRecord`,
  `writes_delimitedRecord`, `writes_flatMap` say so of what is put together.
* `Single`, `Repeated`: what stands for a value that may be left out, and for the items of a list.
* `Single.exists_writes`, `Repeated.exists_read`: the records that they write.
* `payloads_append`, `payloads_optional_delimited`, `payloads_map`: what is selected from such
  records, and `text?_of_optional`, `merged_of_optional`, `flag_of_optional` what is read from the
  selection.
* `conforms_iff`: a message conforms exactly if each of its records holds what it has to.
-/
namespace ToolBindings.Wire

instance (number : Nat) : Decidable (IsNumber number) :=
  inferInstanceAs (Decidable (0 < number ∧ number < 1 <<< 29))

/-- The records that octets write, inside any number of messages and whatever comes behind. -/
def Writes (octets : Octets) (records : List Record) : Prop :=
  ∀ limit rest, records? limit (octets ++ rest) = (records? limit rest).map (records ++ ·)

/-- The size from which on there are no messages any more. -/
def sizeLimit : Nat := 1 <<< 31

section
variable {octets others : Octets} {records more : List Record} {number : Nat}

theorem Writes.nil : Writes [] [] := fun _ _ => by simp

theorem Writes.append (h : Writes octets records) (h' : Writes others more) :
    Writes (octets ++ others) (records ++ more) := by
  intro limit rest
  rw [List.append_assoc, h, h', Option.map_map]
  congr 1
  funext rs
  exact (List.append_assoc _ _ _).symm

theorem Writes.records? (h : Writes octets records) (limit : Nat) :
    Wire.records? limit octets = some records := by
  have := h limit []
  rw [List.append_nil] at this
  rw [this]
  simp [Wire.records?, scan]

theorem writes_uintRecord {value : Nat} (hn : IsNumber number) (hv : value < 1 <<< 64) :
    Writes (uintRecord number value) [⟨number, .varint value⟩] :=
  fun _ rest => records?_uintRecord hn hv rest

theorem length_le_delimitedRecord (number : Nat) (octets : Octets) :
    octets.length ≤ (delimitedRecord number octets).length := by
  rw [delimitedRecord, List.length_append]
  exact Nat.le_add_left _ _

theorem writes_delimitedRecord (hn : IsNumber number)
    (hl : (delimitedRecord number octets).length < sizeLimit) :
    Writes (delimitedRecord number octets) [⟨number, .delimited octets⟩] := by
  have := length_le_delimitedRecord number octets
  unfold sizeLimit at hl
  exact fun _ rest => records?_delimitedRecord hn (by omega) rest

/-- Records of one number, one for each item of a list. -/
theorem writes_flatMap {α : Type} {f : α → Octets} {xs : List α} (hn : IsNumber number)
    (hl : (xs.flatMap fun x => delimitedRecord number (f x)).length < sizeLimit) :
    Writes (xs.flatMap fun x => delimitedRecord number (f x))
      (xs.map fun x => ⟨number, .delimited (f x)⟩) := by
  induction xs with
  | nil => exact .nil
  | cons x xs ih =>
    rw [List.flatMap_cons, List.length_append] at hl
    exact (writes_delimitedRecord hn (by omega)).append (ih (by omega))

/-- Each item's octets are shorter than those of the list. -/
theorem length_of_mem_flatMap {α : Type} {f : α → Octets} {xs : List α} {x : α} (hx : x ∈ xs) :
    (f x).length ≤ (xs.flatMap fun x => delimitedRecord number (f x)).length := by
  induction xs with
  | nil => cases hx
  | cons y ys ih =>
    rw [List.flatMap_cons, List.length_append]
    rcases List.mem_cons.1 hx with rfl | hm
    · have := length_le_delimitedRecord number (f x)
      omega
    · have := ih hm
      omega

end

/-! ## Values that may be left out, and lists -/

/-- What stands for a single value: its record, or nothing if that stands for the value too. -/
inductive Single (isDefault : Prop) (record : Octets) : Octets → Prop
  | present : Single isDefault record record
  | absent (h : isDefault) : Single isDefault record []

/-- What stands for the items of a list: a record of the number for each of them, in order. -/
def Repeated {α : Type} (IsWritten : α → Octets → Prop) (number : Nat) (items : List α)
    (octets : Octets) : Prop :=
  ∃ parts, List.Forall₂ IsWritten items parts ∧ octets = parts.flatMap (delimitedRecord number)

def optionalRecord (present : Bool) (r : Record) : List Record := if present then [r] else []

section
variable {isDefault : Prop} {record octets part : Octets} {number value : Nat} {r : Record}

theorem Single.exists_writes (h : Single isDefault record octets)
    (hr : octets = record → Writes record [r]) :
    ∃ present, Writes octets (optionalRecord present r) ∧
      (present = true → octets = record) ∧ (present = false → isDefault) := by
  cases h with
  | present => exact ⟨true, hr rfl, fun _ => rfl, nofun⟩
  | absent hd => exact ⟨false, .nil, nofun, fun _ => hd⟩

theorem Single.exists_writes_uint (h : Single isDefault (uintRecord number value) octets)
    (hn : IsNumber number) (hv : value < 1 <<< 64) :
    ∃ present, Writes octets (optionalRecord present ⟨number, .varint value⟩) ∧
      (present = false → isDefault) := by
  obtain ⟨present, hw, -, hd⟩ := h.exists_writes fun _ => writes_uintRecord hn hv
  exact ⟨present, hw, hd⟩

theorem Single.exists_writes_delimited (h : Single isDefault (delimitedRecord number part) octets)
    (hn : IsNumber number) (hl : octets.length < sizeLimit) :
    ∃ present, Writes octets (optionalRecord present ⟨number, .delimited part⟩) ∧
      (present = true → octets ≠ []) ∧ (present = false → isDefault) := by
  obtain ⟨present, hw, hp, hd⟩ := h.exists_writes fun he => writes_delimitedRecord hn (he ▸ hl)
  refine ⟨present, hw, fun h => ?_, hd⟩
  rw [hp h, delimitedRecord]
  simp [tag_ne_nil]

/-- A list is written item by item. -/
theorem repeated_flatMap {α : Type} {IsWritten : α → Octets → Prop} {items : List α}
    {write : α → Octets} (h : ∀ item ∈ items, IsWritten item (write item)) :
    Repeated IsWritten number items
      (items.flatMap fun item => delimitedRecord number (write item)) :=
  ⟨items.map write, List.forall₂_map_right_iff.2 (List.forall₂_same.2 h),
    (List.flatMap_map ..).symm⟩

/-- The items of a list can be read if each of them can. -/
theorem Repeated.exists_read {α : Type} {IsWritten : α → Octets → Prop} {items : List α}
    {read : Octets → Option α} {Fits : Octets → Prop}
    (h : Repeated IsWritten number items octets) (hn : IsNumber number)
    (hl : octets.length < sizeLimit)
    (hread : ∀ item part, IsWritten item part → part.length < sizeLimit →
      Fits part ∧ read part = some item) :
    ∃ parts : List Octets, Writes octets (parts.map fun part => ⟨number, .delimited part⟩) ∧
      parts.mapM read = some items ∧ ∀ part ∈ parts, Fits part := by
  obtain ⟨parts, hparts, rfl⟩ := h
  have hshort : ∀ part ∈ parts, part.length < sizeLimit := fun part hm =>
    Nat.lt_of_le_of_lt (length_of_mem_flatMap (f := id) hm) hl
  have hall : List.Forall₂ (fun part item => Fits part ∧ read part = some item) parts items :=
    ((List.forall₂_and_left _ _).2 ⟨hshort, hparts.flip⟩).imp
      fun part item hp => hread item part hp.2 hp.1
  refine ⟨parts, writes_flatMap (f := id) hn hl, mapM_eq_some.2 (hall.imp fun _ _ h => h.2), ?_⟩
  exact ((List.forall₂_and_left _ _).1 hall).1

end

/-! ## Selection -/

section
variable {number : Nat} {records more : List Record}

@[simp] theorem payloads_append :
    payloads number (records ++ more) = payloads number records ++ payloads number more :=
  List.filterMap_append

@[simp] theorem uints_append :
    uints number (records ++ more) = uints number records ++ uints number more :=
  List.filterMap_append

@[simp] theorem payloads_nil : payloads number [] = [] := rfl

@[simp] theorem uints_nil : uints number [] = [] := rfl

@[simp] theorem payloads_cons_delimited (n : Nat) (octets : Octets) :
    payloads number (⟨n, .delimited octets⟩ :: records) =
      if n = number then octets :: payloads number records else payloads number records := by
  rw [payloads_eq, List.filterMap_cons]
  split <;> simp_all [Record.octets?, payloads_eq]

@[simp] theorem payloads_cons_varint (n value : Nat) :
    payloads number (⟨n, .varint value⟩ :: records) = payloads number records := rfl

@[simp] theorem uints_cons_varint (n value : Nat) :
    uints number (⟨n, .varint value⟩ :: records) =
      if n = number then value :: uints number records else uints number records := by
  rw [uints_eq, List.filterMap_cons]
  split <;> simp_all [Record.uint?, uints_eq]

@[simp] theorem uints_cons_delimited (n : Nat) (octets : Octets) :
    uints number (⟨n, .delimited octets⟩ :: records) = uints number records := rfl

/-- Records of one number for the items of a list. -/
@[simp] theorem payloads_map {α : Type} (n : Nat) (f : α → Octets) (xs : List α) :
    payloads number (xs.map fun x => ⟨n, .delimited (f x)⟩) =
      if n = number then xs.map f else [] := by
  induction xs with
  | nil => simp
  | cons x xs ih => rw [List.map_cons, payloads_cons_delimited, ih]; split <;> rfl

@[simp] theorem uints_map {α : Type} (n : Nat) (f : α → Octets) (xs : List α) :
    uints number (xs.map fun x => ⟨n, .delimited (f x)⟩) = [] := by
  induction xs with
  | nil => rfl
  | cons x xs ih => rw [List.map_cons, uints_cons_delimited, ih]

@[simp] theorem payloads_optional_delimited (present : Bool) (n : Nat) (octets : Octets) :
    payloads number (optionalRecord present ⟨n, .delimited octets⟩) =
      if n = number then if present then [octets] else [] else [] := by
  cases present <;> simp [optionalRecord]

@[simp] theorem payloads_optional_varint (present : Bool) (n value : Nat) :
    payloads number (optionalRecord present ⟨n, .varint value⟩) = [] := by
  cases present <;> simp [optionalRecord]

@[simp] theorem uints_optional_varint (present : Bool) (n value : Nat) :
    uints number (optionalRecord present ⟨n, .varint value⟩) =
      if n = number then if present then [value] else [] else [] := by
  cases present <;> simp [optionalRecord]

@[simp] theorem uints_optional_delimited (present : Bool) (n : Nat) (octets : Octets) :
    uints number (optionalRecord present ⟨n, .delimited octets⟩) = [] := by
  cases present <;> simp [optionalRecord]

/-! ## What is read from the selection -/

variable {present : Bool}

theorem text?_of_optional {text : String}
    (h : payloads number records = if present then [Text.utf8 text] else [])
    (hd : present = false → text = "") : text? number records = some text := by
  have htexts : texts? number records = some (if present then [text] else []) := by
    rw [texts?_eq_some, h]
    split <;> rfl
  rw [text?, htexts]
  cases present with
  | true => rfl
  | false => rw [hd rfl]; rfl

theorem merged_of_optional {octets : Octets}
    (h : payloads number records = if present then [octets] else [])
    (hd : present = false → octets = []) : merged number records = octets := by
  rw [merged, h]
  cases present with
  | true => exact List.append_nil octets
  | false => exact (hd rfl).symm

theorem flag_of_optional {value : Bool}
    (h : uints number records = if present then [value.toNat] else [])
    (hd : present = false → value = false) : flag number records = value := by
  rw [flag, h]
  cases present with
  | true => cases value <;> rfl
  | false => rw [hd rfl]; rfl

end

/-! ## Conformance -/

section
variable {κ : Type} {layout : Layout κ} {limit : Nat} {kind : κ} {octets : Octets}
  {records more : List Record}

/-- What the octets of a record have to be, inside a message with so many levels below it. -/
def Holds (layout : Layout κ) (limit : Nat) (part : Octets) : Option (Content κ) → Prop
  | none => True
  | some .integers => areIntegers part = true
  | some (.message inner) => ∃ lower, limit = lower + 1 ∧ conforms layout lower inner part = true

/-- Each delimited record holds what it has to. Other records hold nothing. -/
def AllHold (layout : Layout κ) (limit : Nat) (kind : κ) (records : List Record) : Prop :=
  ∀ number part, ⟨number, .delimited part⟩ ∈ records → Holds layout limit part (layout kind number)

theorem allHold_iff :
    AllHold layout limit kind records ↔
      ∀ r ∈ records, ∀ part, r.payload = .delimited part →
        Holds layout limit part (layout kind r.number) :=
  ⟨fun h r hm part hp => h r.number part (hp ▸ hm), fun h _ part hm => h _ hm part rfl⟩

/-- The records decide one by one. Without a level below, none of them can hold a message. -/
theorem conforms_iff (h : records? limit octets = some records) :
    conforms layout limit kind octets = true ↔ AllHold layout limit kind records := by
  rw [allHold_iff]
  cases limit with
  | zero =>
    rw [conforms, h]
    simp only [List.all_eq_true]
    refine forall₂_congr fun r _ => ?_
    obtain ⟨number, payload⟩ := r
    cases payload with
    | delimited part =>
      rcases layout kind number with - | - | - <;> simp [Holds]
    | varint | fixed64 | group | fixed32 => simp
  | succ lower =>
    rw [conforms, h]
    simp only [List.all_eq_true]
    refine forall₂_congr fun r _ => ?_
    obtain ⟨number, payload⟩ := r
    cases payload with
    | delimited part =>
      rcases layout kind number with - | - | - <;> simp [Holds]
    | varint | fixed64 | group | fixed32 => simp

@[simp] theorem allHold_append :
    AllHold layout limit kind (records ++ more) ↔
      AllHold layout limit kind records ∧ AllHold layout limit kind more := by
  simp only [AllHold, List.mem_append, or_imp, forall_and]

@[simp] theorem allHold_optional_varint (present : Bool) (number value : Nat) :
    AllHold layout limit kind (optionalRecord present ⟨number, .varint value⟩) := by
  cases present <;> simp [AllHold, optionalRecord]

@[simp] theorem allHold_optional_delimited (present : Bool) (number : Nat) (part : Octets) :
    AllHold layout limit kind (optionalRecord present ⟨number, .delimited part⟩) ↔
      (present = true → Holds layout limit part (layout kind number)) := by
  cases present <;> simp [AllHold, optionalRecord]

@[simp] theorem allHold_map (number : Nat) (parts : List Octets) :
    AllHold layout limit kind (parts.map fun part => ⟨number, .delimited part⟩) ↔
      ∀ part ∈ parts, Holds layout limit part (layout kind number) := by
  simp only [AllHold, List.mem_map, Record.mk.injEq, Payload.delimited.injEq]
  exact ⟨fun h part hm => h number part ⟨part, hm, rfl, rfl⟩,
    fun h _ _ ⟨part, hm, hn, hp⟩ => hn ▸ hp ▸ h part hm⟩

end

end ToolBindings.Wire
