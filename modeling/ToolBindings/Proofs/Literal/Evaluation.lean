import ToolBindings.Proofs.Entries
import ToolBindings.Proofs.Literal.Meaning
import ToolBindings.Proofs.Literal.Pieces
import ToolBindings.Proofs.Script.Steps

/-!
# What a literal is evaluated to

The expression of a literal is evaluated to a value that stands for what the literal means. It only
adds to the store, so what has been evaluated before stays as it is.

* `Value.Denotes`: a value of a script stands for a value.
* `putKey_denotes`, `newDict_denotes`: dictionaries of entries with texts as their keys.
* `evaluate_expr`: the value of the expression of a literal.
-/
namespace ToolBindings
open Script Eval

namespace Value

/-- A key of a script is a key. -/
def KeyDenotes : Key → Datum → Prop
  | .null, .atom .none _ => True
  | .bool value, .atom (.bool found) _ => found = value
  | .int value, .atom (.int found) _ => found = value
  | .text value, .atom (.text found) _ => found = value
  | _, _ => False

mutual

/-- A value of a script stands for a value, as far as the store of the machine says what it is. -/
def Denotes (M : Machine) : Value → Datum → Prop
  | null, .atom .none _ => True
  | bool value, .atom (.bool found) _ => found = value
  | int value, .atom (.int found) _ => found = value
  | text value, .atom (.text found) _ => found = value
  | tuple items, .tuple found _ => AllDenote M items found
  | list items, .object place => ∃ found, M.Stores place (.list found) ∧ AllDenote M items found
  | dict entries, .object place =>
    ∃ found, M.Stores place (.dict found) ∧ EntriesDenote M entries found
  | _, _ => False

def AllDenote (M : Machine) : List Value → List Datum → Prop
  | [], [] => True
  | value :: values, found :: others => Denotes M value found ∧ AllDenote M values others
  | _, _ => False

def EntriesDenote (M : Machine) : List (Key × Value) → List (Datum × Datum) → Prop
  | [], [] => True
  | (key, value) :: entries, (foundKey, found) :: others =>
    KeyDenotes key foundKey ∧ Denotes M value found ∧ EntriesDenote M entries others
  | _, _ => False

end

section
variable {M M' : Machine}

mutual

/-- What a value of a script stands for does not change while the store is kept. -/
theorem Denotes.mono (hkeeps : M.Keeps M') : ∀ {value : Value} {found : Datum},
    Denotes M value found → Denotes M' value found
  | null, .atom .none _, _ => trivial
  | bool _, .atom (.bool _) _, h => h
  | int _, .atom (.int _) _, h => h
  | text _, .atom (.text _) _, h => h
  | tuple _, .tuple _ _, h => AllDenote.mono hkeeps h
  | list _, .object _, ⟨found, hstored, h⟩ =>
    ⟨found, hkeeps _ _ hstored fun _ _ => Object.noConfusion, AllDenote.mono hkeeps h⟩
  | dict _, .object _, ⟨found, hstored, h⟩ =>
    ⟨found, hkeeps _ _ hstored fun _ _ => Object.noConfusion, EntriesDenote.mono hkeeps h⟩

theorem AllDenote.mono (hkeeps : M.Keeps M') : ∀ {values : List Value} {found : List Datum},
    AllDenote M values found → AllDenote M' values found
  | [], [], _ => trivial
  | _ :: _, _ :: _, ⟨h, hrest⟩ => ⟨Denotes.mono hkeeps h, AllDenote.mono hkeeps hrest⟩

theorem EntriesDenote.mono (hkeeps : M.Keeps M') :
    ∀ {entries : List (Key × Value)} {found : List (Datum × Datum)},
      EntriesDenote M entries found → EntriesDenote M' entries found
  | [], [], _ => trivial
  | _ :: _, _ :: _, ⟨hkey, h, hrest⟩ =>
    ⟨hkey, Denotes.mono hkeeps h, EntriesDenote.mono hkeeps hrest⟩

end

end

/-! ## Dictionaries -/

def textEntries (entries : List (String × Value)) : List (Key × Value) :=
  entries.map fun (key, value) => (.text key, value)

theorem keyDenotes_text {key : String} {found : Datum} :
    KeyDenotes (.text key) found ↔ ∃ mark, found = .atom (.text key) mark := by
  constructor
  · intro h
    cases found with
    | atom value mark =>
      cases value with
      | text value =>
        obtain rfl : value = key := h
        exact ⟨mark, rfl⟩
      | _ => cases h
    | _ => cases h
  · rintro ⟨mark, rfl⟩
    rfl

section
variable {M : Machine} {entries : List (String × Value)} {found : List (Datum × Datum)}
  {key : String} {value : Value} {foundValue : Datum}

theorem EntriesDenote.append {more : List (Key × Value)} {before : List (Key × Value)}
    {others : List (Datum × Datum)} (h : EntriesDenote M before found)
    (hmore : EntriesDenote M more others) : EntriesDenote M (before ++ more) (found ++ others) := by
  induction before generalizing found with
  | nil =>
    cases found with
    | nil => exact hmore
    | cons _ _ => exact h.elim
  | cons entry before ih =>
    cases found with
    | nil => exact h.elim
    | cons foundEntry found => exact ⟨h.1, h.2.1, ih h.2.2⟩

/-- A key is among the entries of a script exactly if it is among those that they stand for. -/
theorem valueOfKey?_isSome (h : EntriesDenote M (textEntries entries) found) (mark : Nat) :
    (valueOfKey? found (.atom (.text key) mark)).isSome = true ↔ key ∈ entries.map (·.1) := by
  induction entries generalizing found with
  | nil =>
    cases found with
    | nil => simp [valueOfKey?]
    | cons _ _ => exact h.elim
  | cons entry entries ih =>
    cases found with
    | nil => exact h.elim
    | cons foundEntry found =>
      obtain ⟨m, hkey⟩ := keyDenotes_text.1 h.1
      have hsame : foundEntry.1.isSameKey (.atom (.text key) mark) = (entry.1 == key) := by
        rw [hkey]
        rfl
      have hrest := ih h.2.2
      simp only [valueOfKey?, List.find?_cons, hsame, Option.isSome_map, List.map_cons,
        List.mem_cons] at hrest ⊢
      by_cases heq : entry.1 = key
      · simp [heq]
      · rw [beq_eq_false_iff_ne.2 heq]
        simp [hrest, Ne.symm heq]

/-- Where no key is the one that is set, nothing changes. -/
theorem map_of_not_mem (h : EntriesDenote M (textEntries entries) found)
    (hkey : key ∉ entries.map (·.1)) (mark : Nat) (foundValue : Datum) :
    found.map (fun entry =>
      if entry.1.isSameKey (.atom (.text key) mark) then (entry.1, foundValue) else entry) =
      found := by
  induction entries generalizing found with
  | nil =>
    cases found with
    | nil => rfl
    | cons _ _ => exact h.elim
  | cons entry entries ih =>
    cases found with
    | nil => exact h.elim
    | cons foundEntry found =>
      rw [List.map_cons, List.mem_cons, not_or] at hkey
      obtain ⟨m, hfirst⟩ := keyDenotes_text.1 h.1
      have hsame : foundEntry.1.isSameKey (.atom (.text key) mark) = (entry.1 == key) := by
        rw [hfirst]
        rfl
      rw [List.map_cons, ih h.2.2 hkey.2, hsame, beq_eq_false_iff_ne.2 (Ne.symm hkey.1)]
      rfl

/-- A key that is set keeps its place; a new one goes behind all others. -/
theorem putKey_denotes (h : EntriesDenote M (textEntries entries) found)
    (hnodup : (entries.map (·.1)).Nodup) (hvalue : Denotes M value foundValue) (mark : Nat) :
    EntriesDenote M (textEntries (Entries.put key value entries))
      (putKey found (.atom (.text key) mark) foundValue) := by
  by_cases hkey : key ∈ entries.map (·.1)
  · rw [putKey, if_pos ((valueOfKey?_isSome h mark).2 hkey)]
    induction entries generalizing found with
    | nil => cases hkey
    | cons entry entries ih =>
      cases found with
      | nil => exact h.elim
      | cons foundEntry found =>
        rw [List.map_cons, List.nodup_cons] at hnodup
        rw [List.map_cons, List.mem_cons] at hkey
        obtain ⟨m, hfirst⟩ := keyDenotes_text.1 h.1
        have hsame : foundEntry.1.isSameKey (.atom (.text key) mark) = (entry.1 == key) := by
          rw [hfirst]
          rfl
        rw [List.map_cons, hsame, Entries.put]
        by_cases heq : entry.1 = key
        · have hrest := map_of_not_mem h.2.2 (heq ▸ hnodup.1) mark foundValue
          rw [hrest, if_pos (beq_iff_eq.2 heq), if_pos (beq_iff_eq.2 heq)]
          exact ⟨heq ▸ h.1, hvalue, h.2.2⟩
        · have hrest := ih h.2.2 hnodup.2 (hkey.resolve_left (Ne.symm heq))
          rw [if_neg (by simpa using heq), if_neg (by simpa using heq)]
          exact ⟨h.1, h.2.1, hrest⟩
  · have hnone : ¬ (valueOfKey? found (.atom (.text key) mark)).isSome = true :=
      fun hsome => hkey ((valueOfKey?_isSome h mark).1 hsome)
    rw [putKey, if_neg hnone, Entries.put_of_not_mem hkey, textEntries, List.map_append]
    exact h.append ⟨rfl, hvalue, trivial⟩

theorem foldl_putKey_denotes {pairs : List (String × Value)} {others : List (Datum × Datum)}
    (h : EntriesDenote M (textEntries entries) found) (hnodup : (entries.map (·.1)).Nodup)
    (hpairs : EntriesDenote M (textEntries pairs) others) :
    EntriesDenote M
      (textEntries
        (pairs.foldl (fun entries (key, value) => Entries.put key value entries) entries))
      (others.foldl (fun entries (key, value) => putKey entries key value) found) := by
  induction pairs generalizing others entries found with
  | nil =>
    cases others with
    | nil => exact h
    | cons _ _ => exact hpairs.elim
  | cons pair pairs ih =>
    cases others with
    | nil => exact hpairs.elim
    | cons other others =>
      obtain ⟨key, value⟩ := pair
      obtain ⟨otherKey, otherValue⟩ := other
      obtain ⟨mark, rfl⟩ := keyDenotes_text.1 hpairs.1
      have hput : EntriesDenote M (textEntries (Entries.put key value entries)) _ :=
        putKey_denotes h hnodup hpairs.2.1 mark
      rw [List.foldl_cons, List.foldl_cons]
      exact ih hput (Entries.nodup_keys_put hnodup) hpairs.2.2

/-- Texts can be keys. -/
theorem checkKeys_eq (h : EntriesDenote M (textEntries entries) found) (M' : Machine) :
    (forIn found PUnit.unit fun entry _ => do
      checkKey entry.1
      pure (ForInStep.yield PUnit.unit) : Eval PUnit) M' = (.ok PUnit.unit, M') := by
  induction entries generalizing found with
  | nil =>
    cases found with
    | nil => rfl
    | cons _ _ => exact h.elim
  | cons entry entries ih =>
    cases found with
    | nil => exact h.elim
    | cons foundEntry found =>
      obtain ⟨foundKey, foundValue⟩ := foundEntry
      obtain ⟨mark, rfl⟩ := keyDenotes_text.1 h.1
      rw [List.forIn_cons]
      exact (bind_of_ok (a := ForInStep.yield PUnit.unit) rfl).trans (ih h.2.2)

theorem newDict_denotes (h : EntriesDenote M (textEntries entries) found) :
    ∃ dict M', newDict found M = (.ok dict, M') ∧ Adds M M' ∧
      Denotes M' (.dict (textEntries (Entries.ofPairs entries))) dict := by
  have hnone : EntriesDenote M (textEntries []) [] := trivial
  have hentries := foldl_putKey_denotes hnone List.nodup_nil h
  obtain ⟨place, M', hput, hadds, hstored⟩ := put_adds
    (.dict (found.foldl (fun entries (key, value) => putKey entries key value) [])) M
  refine ⟨.object place, M', ?_, hadds, _, hstored, hentries.mono hadds.keeps⟩
  exact (bind_of_ok (checkKeys_eq h M)).trans hput

end

end Value

/-! ## Literals -/

namespace Literal
open Value

/-- How deep expressions are in one another that are evaluated for a literal. -/
theorem evaluate_numberExpr (n : Nat) (scene : Scene) (value : Int) (M : Machine) :
    ∃ mark M', (runner (n + 2)).value scene (numberExpr value) M =
      (.ok (.atom (.int value) mark), M') ∧ Adds M M' := by
  cases value with
  | ofNat value => exact ⟨0, M, rfl, .refl M⟩
  | negSucc value =>
    obtain ⟨mark, M', hmark, hadds⟩ := atom_adds (.int (-((value + 1 : Nat) : Int))) M
    refine ⟨0, M', ?_, hadds⟩
    show evaluate (runner (n + 1)) scene (.unary .minus _) M = _
    refine (bind_of_ok (a := Datum.atom (.int ((value + 1 : Nat) : Int)) 0) rfl).trans ?_
    exact (bind_of_ok hmark).trans rfl

mutual

/-- The value of the expression of a literal stands for what the literal means. -/
theorem evaluate_expr (scene : Scene) : ∀ (literal : Literal) {n : Nat} (M : Machine),
    literal.depth + 2 ≤ n → ∃ found M', (runner n).value scene literal.expr M = (.ok found, M') ∧
      Adds M M' ∧ Denotes M' literal.toValue found
  | null, n + 2, M, _ => ⟨.none, M, rfl, .refl M, trivial⟩
  | bool value, n + 2, M, _ => ⟨.bool value, M, rfl, .refl M, rfl⟩
  | text value, n + 2, M, _ => ⟨.atom (.text value) 0, M, rfl, .refl M, rfl⟩
  | int value, n + 2, M, _ => by
    obtain ⟨mark, M', hvalue, hadds⟩ := evaluate_numberExpr n scene value M
    exact ⟨_, M', hvalue, hadds, rfl⟩
  | list items, n + 1, M, h => by
    rw [depth] at h
    obtain ⟨found, M', hitems, hadds, hdenote⟩ := evaluate_itemExprs scene items M
      (by omega : depthOfItems items + 2 ≤ n)
    obtain ⟨place, M'', hput, hadds', hstored⟩ := put_adds (.list found) M'
    refine ⟨.object place, M'', ?_, hadds.trans hadds', found, hstored, hdenote.mono hadds'.keeps⟩
    rw [expr]
    exact (bind_of_ok hitems).trans hput
  | dict entries, n + 1, M, h => by
    rw [depth] at h
    obtain ⟨found, M', hentries, hadds, hdenote⟩ := evaluate_entryExprs scene entries M
      (by omega : depthOfEntries entries + 2 ≤ n)
    obtain ⟨dict, M'', hdict, hadds', hdenote'⟩ := newDict_denotes hdenote
    refine ⟨dict, M'', ?_, hadds.trans hadds', hdenote'⟩
    rw [expr]
    exact (bind_of_ok hentries).trans hdict

theorem evaluate_itemExprs (scene : Scene) : ∀ (items : List Literal) {n : Nat} (M : Machine),
    depthOfItems items + 2 ≤ n → ∃ found M',
      evaluateItems (runner n) scene (itemExprs items) M = (.ok found, M') ∧ Adds M M' ∧
        AllDenote M' (toValues items) found
  | [], _, M, _ => ⟨[], M, rfl, .refl M, trivial⟩
  | item :: rest, n, M, h => by
    rw [depthOfItems] at h
    obtain ⟨first, M', hfirst, hadds, hdenote⟩ := evaluate_expr scene item M
      (by omega : item.depth + 2 ≤ n)
    obtain ⟨others, M'', hothers, hadds', hdenotes⟩ := evaluate_itemExprs scene rest M'
      (by omega : depthOfItems rest + 2 ≤ n)
    refine ⟨first :: others, M'', ?_, hadds.trans hadds', hdenote.mono hadds'.keeps, hdenotes⟩
    have hspread : ∀ e, item.expr ≠ .spread e := by
      cases item with
      | int value => cases value <;> nofun
      | _ => nofun
    rw [itemExprs, evaluateItems]
    · exact (bind_of_ok hfirst).trans ((bind_of_ok hothers).trans rfl)
    · exact fun e he => hspread e he

theorem evaluate_entryExprs (scene : Scene) :
    ∀ (entries : List (String × Literal)) {n : Nat} (M : Machine),
      depthOfEntries entries + 2 ≤ n → ∃ found M',
        evaluateEntries (runner n) scene (entryExprs entries) M = (.ok found, M') ∧ Adds M M' ∧
          EntriesDenote M' (textEntries (toPairs entries)) found
  | [], _, M, _ => ⟨[], M, rfl, .refl M, trivial⟩
  | (key, value) :: rest, n + 1, M, h => by
    rw [depthOfEntries] at h
    obtain ⟨first, M', hfirst, hadds, hdenote⟩ := evaluate_expr scene value M
      (by omega : value.depth + 2 ≤ n + 1)
    obtain ⟨others, M'', hothers, hadds', hdenotes⟩ := evaluate_entryExprs scene rest M'
      (by omega : depthOfEntries rest + 2 ≤ n + 1)
    refine ⟨(.atom (.text key) 0, first) :: others, M'', ?_, hadds.trans hadds', rfl,
      hdenote.mono hadds'.keeps, hdenotes⟩
    rw [entryExprs, evaluateEntries]
    refine (bind_of_ok (a := Datum.atom (.text key) 0) rfl).trans ((bind_of_ok hfirst).trans ?_)
    exact (bind_of_ok (a := ()) rfl).trans ((bind_of_ok hothers).trans rfl)

end

end Literal

end ToolBindings
