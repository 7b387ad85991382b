import Mathlib.Data.List.Forall2
import ToolBindings.Wire.Message

/-!
# What is selected from a sequence of records

Of the records of one number and form the last one counts. Records of other numbers and
forms do not matter, and neither does how a message is cut into parts.

* `mapM_eq_some`: the same reading on each item of a list.
* `mem_payloads`, `payloads_filter`, `uints_filter`: which records are selected.
* `LastText`, `LastFlag`: the last record decides.
* `text?_eq_some`, `flag_iff_lastFlag`: texts and flags are read in this way.
* `records?_flatten`: the parts of a message, put together, hold the records of all parts.
-/
namespace ToolBindings.Wire

section
variable {α β : Type} {f : α → Option β}

/-- Item by item, each success has its place in the result. -/
theorem mapM_eq_some {xs : List α} {ys : List β} :
    xs.mapM f = some ys ↔ List.Forall₂ (fun x y => f x = some y) xs ys := by
  induction xs generalizing ys with
  | nil => simp [eq_comm]
  | cons x xs ih =>
    simp only [List.mapM_cons, Option.bind_eq_bind, Option.bind_eq_some_iff, ih,
      Option.pure_def, Option.some.injEq, List.forall₂_cons_left_iff]
    constructor
    · rintro ⟨y, hy, ys', hys, rfl⟩
      exact ⟨y, ys', hy, hys, rfl⟩
    · rintro ⟨y, ys', hy, hys, rfl⟩
      exact ⟨y, hy, ys', hys, rfl⟩

theorem exists_mapM_eq_some {xs : List α} :
    (∃ ys, xs.mapM f = some ys) ↔ ∀ x ∈ xs, (f x).isSome := by
  induction xs with
  | nil => simp
  | cons x xs ih =>
    rw [List.forall_mem_cons, ← ih]
    simp only [List.mapM_cons, Option.bind_eq_bind, Option.bind_eq_some_iff, Option.pure_def,
      Option.some.injEq, Option.isSome_iff_exists]
    constructor
    · rintro ⟨_, y, hy, ys, hys, -⟩
      exact ⟨⟨y, hy⟩, ys, hys⟩
    · rintro ⟨⟨y, hy⟩, ys, hys⟩
      exact ⟨_, y, hy, ys, hys, rfl⟩

/-- Where each value is found in one item only, the last value is found in an item behind which
there is no other to be found. -/
theorem getLast?_filterMap {g : β → α} (hf : ∀ x b, f x = some b ↔ x = g b) {xs : List α} {b : β} :
    (xs.filterMap f).getLast? = some b ↔
      ∃ before after, xs = before ++ g b :: after ∧ ∀ other, g other ∉ after := by
  have hnone : ∀ after : List α, after.filterMap f = [] ↔ ∀ other, g other ∉ after := by
    intro after
    simp only [List.filterMap_eq_nil_iff, Option.eq_none_iff_forall_ne_some, ne_eq, hf]
    exact ⟨fun h other hm => h _ hm other rfl, fun h x hm other he => h other (he ▸ hm)⟩
  rw [List.getLast?_eq_some_iff]
  constructor
  · rintro ⟨ys, h⟩
    obtain ⟨front, back, rfl, -, hb⟩ := List.filterMap_eq_append_iff.1 h
    obtain ⟨skipped, x, after, rfl, -, hx, ha⟩ := List.filterMap_eq_cons_iff.1 hb
    obtain rfl := (hf x b).1 hx
    exact ⟨front ++ skipped, after, by simp, (hnone after).1 ha⟩
  · rintro ⟨before, after, rfl, ha⟩
    refine ⟨before.filterMap f, ?_⟩
    rw [List.filterMap_append, List.filterMap_cons_some ((hf _ b).2 rfl), (hnone after).2 ha]

/-- Items that would not be found anyway can be left out. -/
theorem filterMap_filter_of_imp {p : α → Bool} (h : ∀ x b, f x = some b → p x = true)
    (xs : List α) : (xs.filter p).filterMap f = xs.filterMap f := by
  rw [List.filterMap_filter]
  congr 1
  funext x
  cases hx : f x with
  | none => simp
  | some b => simp [h x b hx]

end

/-! ## Records of one number -/

section
variable {number : Nat} {records others : List Record} {octets : Octets} {value : Nat}

def Record.octets? (number : Nat) (r : Record) : Option Octets :=
  match r.payload with
  | .delimited octets => if r.number = number then some octets else none
  | _ => none

def Record.uint? (number : Nat) (r : Record) : Option Nat :=
  match r.payload with
  | .varint value => if r.number = number then some value else none
  | _ => none

theorem octets?_eq_some {r : Record} :
    r.octets? number = some octets ↔ r = ⟨number, .delimited octets⟩ := by
  obtain ⟨n, payload⟩ := r
  cases payload <;> simp [Record.octets?]

theorem uint?_eq_some {r : Record} :
    r.uint? number = some value ↔ r = ⟨number, .varint value⟩ := by
  obtain ⟨n, payload⟩ := r
  cases payload <;> simp [Record.uint?]

theorem payloads_eq : payloads number records = records.filterMap (Record.octets? number) := rfl

theorem uints_eq : uints number records = records.filterMap (Record.uint? number) := rfl

theorem mem_payloads :
    octets ∈ payloads number records ↔ ⟨number, .delimited octets⟩ ∈ records := by
  simp only [payloads_eq, List.mem_filterMap, octets?_eq_some, exists_eq_right]

theorem payloads_eq_nil :
    payloads number records = [] ↔ ∀ octets, ⟨number, .delimited octets⟩ ∉ records := by
  simp only [List.eq_nil_iff_forall_not_mem, mem_payloads]

/-- The last of the delimited records of a number. -/
theorem getLast?_payloads :
    (payloads number records).getLast? = some octets ↔
      ∃ before after, records = before ++ ⟨number, .delimited octets⟩ :: after ∧
        ∀ other, ⟨number, .delimited other⟩ ∉ after :=
  getLast?_filterMap (f := Record.octets? number)
    (g := fun octets => (⟨number, .delimited octets⟩ : Record)) fun _ _ => octets?_eq_some

/-- The last of the integer records of a number. -/
theorem getLast?_uints :
    (uints number records).getLast? = some value ↔
      ∃ before after, records = before ++ ⟨number, .varint value⟩ :: after ∧
        ∀ other, ⟨number, .varint other⟩ ∉ after :=
  getLast?_filterMap (f := Record.uint? number)
    (g := fun value => (⟨number, .varint value⟩ : Record)) fun _ _ => uint?_eq_some

/-- Records that do not count for a number can be left out. -/
theorem payloads_filter {counts : Record → Bool}
    (h : ∀ octets, counts ⟨number, .delimited octets⟩ = true) :
    payloads number (records.filter counts) = payloads number records :=
  filterMap_filter_of_imp (fun _ octets hr => octets?_eq_some.1 hr ▸ h octets) records

theorem uints_filter {counts : Record → Bool}
    (h : ∀ value, counts ⟨number, .varint value⟩ = true) :
    uints number (records.filter counts) = uints number records :=
  filterMap_filter_of_imp (fun _ value hr => uint?_eq_some.1 hr ▸ h value) records

end

/-! ## The last record decides -/

/-- A text is what the last delimited record of a number holds, and empty without such a record.
The other records of the number are texts as well. -/
structure LastText (number : Nat) (records : List Record) (text : String) : Prop where
  all_texts : ∀ octets, ⟨number, .delimited octets⟩ ∈ records → ∃ other, octets = Text.utf8 other
  last : (text = "" ∧ ∀ octets, ⟨number, .delimited octets⟩ ∉ records) ∨
    ∃ before after, records = before ++ ⟨number, .delimited (Text.utf8 text)⟩ :: after ∧
      ∀ octets, ⟨number, .delimited octets⟩ ∉ after

/-- A flag is set exactly if there is an integer record of a number and the last one is not zero. -/
def LastFlag (number : Nat) (records : List Record) (value : Bool) : Prop :=
  value = true ↔ ∃ before word after, records = before ++ ⟨number, .varint word⟩ :: after ∧
    word ≠ 0 ∧ ∀ other, ⟨number, .varint other⟩ ∉ after

section
variable {number : Nat} {records : List Record} {text : String} {value : Bool}

theorem texts?_eq_some {texts : List String} :
    texts? number records = some texts ↔ payloads number records = texts.map Text.utf8 := by
  simp only [texts?, mapM_eq_some, Text.ofUtf8?_eq_some]
  exact (List.forall₂_map_right_iff (R := Eq)).symm.trans (by rw [List.forall₂_eq_eq_eq])

theorem text?_eq_some : text? number records = some text ↔ LastText number records text := by
  rw [text?, Option.map_eq_some_iff]
  simp only [texts?_eq_some]
  constructor
  · rintro ⟨texts, hp, rfl⟩
    refine ⟨fun octets hm => ?_, ?_⟩
    · rw [← mem_payloads, hp] at hm
      obtain ⟨other, -, he⟩ := List.mem_map.1 hm
      exact ⟨other, he.symm⟩
    · cases hl : texts.getLast? with
      | none =>
        obtain rfl := List.getLast?_eq_none_iff.1 hl
        exact .inl ⟨rfl, payloads_eq_nil.1 hp⟩
      | some text =>
        have hlast : (payloads number records).getLast? = some (Text.utf8 text) := by
          rw [hp, List.getLast?_map, hl]; rfl
        rw [List.getLastD_eq_getLast?, hl]
        exact .inr (getLast?_payloads.1 hlast)
  · rintro ⟨hall, hlast⟩
    obtain ⟨texts, ht⟩ : ∃ texts, texts? number records = some texts := by
      refine exists_mapM_eq_some.2 fun octets hm => ?_
      obtain ⟨other, rfl⟩ := hall octets (mem_payloads.1 hm)
      rw [Text.ofUtf8?_utf8]; rfl
    rw [texts?_eq_some] at ht
    refine ⟨texts, ht, ?_⟩
    rcases hlast with ⟨rfl, hnone⟩ | hlast
    · rw [payloads_eq_nil.2 hnone, eq_comm, List.map_eq_nil_iff] at ht
      rw [ht]; rfl
    · have hl := getLast?_payloads.2 hlast
      rw [ht, List.getLast?_map, Option.map_eq_some_iff] at hl
      obtain ⟨other, hl, he⟩ := hl
      have hother : Text.ofUtf8? (Text.utf8 text) = some other := Text.ofUtf8?_eq_some.2 he.symm
      rw [Text.ofUtf8?_utf8, Option.some.injEq] at hother
      rw [List.getLastD_eq_getLast?, hl, hother]; rfl

theorem flag_iff_lastFlag : flag number records = value ↔ LastFlag number records value := by
  have htrue : flag number records = true ↔
      ∃ before word after, records = before ++ ⟨number, .varint word⟩ :: after ∧ word ≠ 0 ∧
        ∀ other, ⟨number, .varint other⟩ ∉ after := by
    rw [flag, decide_eq_true_iff, List.getLastD_eq_getLast?]
    constructor
    · intro h
      cases hl : (uints number records).getLast? with
      | none => rw [hl] at h; exact absurd rfl h
      | some word =>
        rw [hl] at h
        obtain ⟨before, after, he, ha⟩ := getLast?_uints.1 hl
        exact ⟨before, word, after, he, h, ha⟩
    · rintro ⟨before, word, after, he, hw, ha⟩
      rw [getLast?_uints.2 ⟨before, after, he, ha⟩]
      exact hw
  rw [LastFlag, ← htrue, Bool.eq_iff_iff]
  exact iff_comm

end

/-! ## Parts of a message -/

section
variable {limit : Nat}

/-- The parts of a message, put together, hold the records of all parts. The induction is on the
parts; each is followed by those behind it. -/
theorem records?_flatten {parts : List Octets} {records : List (List Record)}
    (h : parts.mapM (records? limit) = some records) :
    records? limit parts.flatten = some records.flatten := by
  rw [mapM_eq_some] at h
  induction h with
  | nil => simp [records?, scan]
  | cons hpart _ ih =>
    rw [List.flatten_cons, records?_append _ hpart, ih, List.flatten_cons]
    rfl

end

end ToolBindings.Wire
