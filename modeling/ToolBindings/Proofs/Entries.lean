import Mathlib.Data.List.Induction
import Mathlib.Data.List.Nodup
import ToolBindings.Entries

/-!
# Looking keys up

* `lookup_eq_none`: no value stands for a key that is not there.
* `lookup_of_mem`: where no key occurs twice, each entry is found by its key.
* `mem_of_mem_ofPairs`, `mem_keys_ofPairs`: entries that were set one after the other have all the
  keys, and are among what was set.
-/
namespace ToolBindings.Entries

variable {κ ν : Type} [BEq κ] [LawfulBEq κ] {entries : Entries κ ν} {key : κ} {value : ν}

theorem lookup_eq_none : entries.lookup key = none ↔ key ∉ entries.map (·.1) := by
  simp only [List.lookup_eq_none_iff, List.mem_map, Prod.exists, exists_and_right, exists_eq_right,
    not_exists, Prod.forall, bne_iff_ne]
  constructor
  · intro h other hm; exact h key other hm rfl
  · rintro h _ other hm rfl; exact h other hm

theorem lookup_of_mem (hd : (entries.map (·.1)).Nodup) (h : (key, value) ∈ entries) :
    entries.lookup key = some value := by
  obtain ⟨before, after, rfl⟩ := List.append_of_mem h
  refine List.lookup_eq_some_iff.2 ⟨before, after, rfl, fun entry hm => ?_⟩
  rw [List.map_append, List.nodup_append] at hd
  rw [bne_iff_ne]
  exact (hd.2.2 entry.1 (List.mem_map_of_mem hm) key List.mem_cons_self).symm

/-! ## Setting keys one after the other -/

theorem mem_put {entry : κ × ν} (h : entry ∈ put key value entries) :
    entry = (key, value) ∨ entry ∈ entries := by
  induction entries with
  | nil => exact .inl (List.mem_singleton.1 h)
  | cons other rest ih =>
    obtain ⟨k, v⟩ := other
    rw [put] at h
    split at h
    · next hk =>
      rw [beq_iff_eq] at hk
      subst hk
      rcases List.mem_cons.1 h with rfl | hm
      · exact .inl rfl
      · exact .inr (List.mem_cons_of_mem _ hm)
    · rcases List.mem_cons.1 h with rfl | hm
      · exact .inr List.mem_cons_self
      · exact (ih hm).imp_right (List.mem_cons_of_mem _)

omit [LawfulBEq κ] in
theorem ofPairs_concat (pairs : List (κ × ν)) (pair : κ × ν) :
    ofPairs (pairs ++ [pair]) = put pair.1 pair.2 (ofPairs pairs) := by
  rw [ofPairs, List.foldl_append]
  rfl

theorem mem_of_mem_ofPairs {pairs : List (κ × ν)} {entry : κ × ν} (h : entry ∈ ofPairs pairs) :
    entry ∈ pairs := by
  induction pairs using List.reverseRecOn with
  | nil => cases h
  | append_singleton pairs pair ih =>
    rw [ofPairs_concat] at h
    rcases mem_put h with rfl | hm
    · exact List.mem_append_right _ List.mem_cons_self
    · exact List.mem_append_left _ (ih hm)

theorem mem_keys_ofPairs {pairs : List (κ × ν)} :
    key ∈ (ofPairs pairs).map (·.1) ↔ key ∈ pairs.map (·.1) := by
  induction pairs using List.reverseRecOn with
  | nil => rfl
  | append_singleton pairs pair ih =>
    rw [ofPairs_concat, keys_put, List.map_append, List.mem_append, ← ih, List.map_singleton]
    split
    · next hk => exact ⟨.inl, fun h => h.elim id fun hm => List.mem_singleton.1 hm ▸ hk⟩
    · rw [List.mem_append]

end ToolBindings.Entries
