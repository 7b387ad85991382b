/-!
# Entries in order of insertion

Keys with values, as a list. A key that is put again keeps its place and gets the new
value; the key itself stays the one that was put first, which matters where different
keys count as the same.

* `keys_put`, `lookup_put`: what putting does to the keys and to the values.
* `nodup_keys_put`: no key occurs twice.
* `ofPairs_of_nodup`: pairs with different keys are entries as they stand.
-/
namespace ToolBindings

variable {κ ν : Type}

/-- Keys with their values. -/
abbrev Entries (κ ν : Type) := List (κ × ν)

namespace Entries

def put [BEq κ] (key : κ) (value : ν) : Entries κ ν → Entries κ ν
  | [] => [(key, value)]
  | (k, v) :: rest => if k == key then (k, value) :: rest else (k, v) :: put key value rest

/-- The entries that result from setting keys one after the other. -/
def ofPairs [BEq κ] (pairs : List (κ × ν)) : Entries κ ν :=
  pairs.foldl (fun entries (key, value) => put key value entries) []

variable [BEq κ] [LawfulBEq κ]

/-- A key that is there already keeps its place; a new one goes behind all others. -/
theorem keys_put (key : κ) (value : ν) (entries : Entries κ ν) :
    (put key value entries).map (·.1) =
      if key ∈ entries.map (·.1) then entries.map (·.1) else entries.map (·.1) ++ [key] := by
  induction entries with
  | nil => simp [put]
  | cons entry rest ih =>
    obtain ⟨k, v⟩ := entry
    by_cases h : k = key
    · simp [put, h]
    · have : ¬key = k := fun he => h he.symm
      simp only [put, beq_eq_false_iff_ne.2 h, Bool.false_eq_true, if_false, List.map_cons, ih,
        List.mem_cons, this, false_or]
      split <;> simp

/-- A key has the value that was put last. -/
theorem lookup_put (key other : κ) (value : ν) (entries : Entries κ ν) :
    (put key value entries).lookup other =
      if other == key then some value else entries.lookup other := by
  induction entries with
  | nil =>
    by_cases h : other == key <;> simp [put, List.lookup_cons, h]
  | cons entry rest ih =>
    obtain ⟨k, v⟩ := entry
    by_cases hk : k = key
    · subst hk
      by_cases h : other = k
      · simp [put, h]
      · simp [put, List.lookup_cons, beq_eq_false_iff_ne.2 h]
    · by_cases h : other = k
      · subst h; simp [put, hk]
      · simp only [put, beq_eq_false_iff_ne.2 hk, Bool.false_eq_true, if_false, List.lookup_cons,
          beq_eq_false_iff_ne.2 h, ih]

theorem nodup_keys_put {key : κ} {value : ν} {entries : Entries κ ν}
    (h : (entries.map (·.1)).Nodup) : ((put key value entries).map (·.1)).Nodup := by
  rw [keys_put]
  split
  · exact h
  · next hk =>
    refine List.nodup_append.2 ⟨h, by simp, ?_⟩
    rintro a ha b hb rfl
    exact hk (List.mem_singleton.1 hb ▸ ha)

theorem put_of_not_mem {key : κ} {value : ν} {entries : Entries κ ν}
    (h : key ∉ entries.map (·.1)) : put key value entries = entries ++ [(key, value)] := by
  induction entries with
  | nil => rfl
  | cons entry rest ih =>
    simp only [List.map_cons, List.mem_cons, not_or] at h
    rw [put, if_neg (by simpa using Ne.symm h.1), ih h.2]
    rfl

theorem ofPairs_of_nodup {pairs : List (κ × ν)} (h : (pairs.map (·.1)).Nodup) :
    ofPairs pairs = pairs := by
  have key : ∀ (rest done : List (κ × ν)), ((done ++ rest).map (·.1)).Nodup →
      rest.foldl (fun entries (key, value) => put key value entries) done = done ++ rest := by
    intro rest
    induction rest with
    | nil => simp
    | cons pair rest ih =>
      intro done h
      obtain ⟨key, value⟩ := pair
      have hnew : key ∉ done.map (·.1) := by
        rw [List.map_append, List.nodup_append] at h
        intro hm
        exact h.2.2 _ hm _ (by simp) rfl
      rw [List.foldl_cons]
      simp only
      rw [put_of_not_mem hnew, ih _ (by simpa using h), List.append_assoc]
      rfl
  exact key pairs [] h

end Entries

end ToolBindings
