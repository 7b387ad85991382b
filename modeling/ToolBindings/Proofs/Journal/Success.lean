import Mathlib.Data.List.Forall2
import ToolBindings.Journal.Logged

/-!
# When a computation succeeds

Success of a compound computation, said by the success of its parts.

* `bind_eq_ok`, `ok_bind`, `error_bind`, `bind_congr_of_ok`, `map_eq_ok`: one computation after
  the other.
* `mapM_eq_ok`, `mapM_append_eq_ok`, `exists_mapM_eq_ok`, `mapM_eq_error`, `mapM_congr_of_mem`,
  `map_mapM`: the same computation on each item of a list.
* `result_map`, `result_mapM`: what a computation reports does not matter here.
-/
namespace ToolBindings

variable {ε α β : Type}

theorem bind_eq_ok {x : Except ε α} {f : α → Except ε β} {b : β} :
    (x >>= f) = .ok b ↔ ∃ a, x = .ok a ∧ f a = .ok b := by
  cases x with
  | error e =>
    constructor
    · intro h; cases h
    · intro h
      obtain ⟨_, h, _⟩ := h
      cases h
  | ok a =>
    constructor
    · intro h; exact ⟨a, rfl, h⟩
    · intro h
      obtain ⟨_, h, hf⟩ := h
      cases h; exact hf

theorem ok_bind (a : α) (f : α → Except ε β) : (.ok a : Except ε α) >>= f = f a := rfl

theorem error_bind (e : ε) (f : α → Except ε β) :
    (.error e : Except ε α) >>= f = .error e := rfl

theorem bind_eq_error {x : Except ε α} {f : α → Except ε β} {e : ε} :
    (x >>= f) = .error e ↔ x = .error e ∨ ∃ a, x = .ok a ∧ f a = .error e := by
  cases x with
  | error e' =>
    rw [error_bind, Except.error.injEq, Except.error.injEq]
    constructor
    · intro h; exact .inl h
    · intro h
      obtain h | ⟨_, h, _⟩ := h
      · exact h
      · cases h
  | ok a =>
    rw [ok_bind]
    constructor
    · intro h; exact .inr ⟨a, rfl, h⟩
    · intro h
      obtain h | ⟨_, h, hf⟩ := h
      · cases h
      · cases h; exact hf

theorem map_eq_error {x : Except ε α} {f : α → β} {e : ε} :
    x.map f = .error e ↔ x = .error e := by
  cases x with
  | error e' => rw [Except.map, Except.error.injEq, Except.error.injEq]
  | ok a => exact ⟨nofun, nofun⟩

theorem map_eq_ok {x : Except ε α} {f : α → β} {b : β} :
    x.map f = .ok b ↔ ∃ a, x = .ok a ∧ f a = b := by
  cases x with
  | error e =>
    constructor
    · intro h; cases h
    · intro h
      obtain ⟨_, h, _⟩ := h
      cases h
  | ok a =>
    constructor
    · intro h; cases h; exact ⟨a, rfl, rfl⟩
    · intro h
      obtain ⟨_, h, rfl⟩ := h
      cases h; rfl

theorem pure_eq_ok {a b : α} : (pure a : Except ε α) = .ok b ↔ a = b := by
  show (.ok a : Except ε α) = .ok b ↔ _
  rw [Except.ok.injEq]

/-- What comes after a computation counts only where the computation succeeds. -/
theorem bind_congr_of_ok {x : Except ε α} {f g : α → Except ε β}
    (h : ∀ a, x = .ok a → f a = g a) : x >>= f = x >>= g := by
  cases x with
  | error e => rfl
  | ok a => exact h a rfl

theorem toOption_eq_some {x : Except ε α} {a : α} : x.toOption = some a ↔ x = .ok a := by
  cases x with
  | error e => exact ⟨nofun, nofun⟩
  | ok b => rw [Except.toOption, Option.some.injEq, Except.ok.injEq]

theorem exists_eq_ok_of_isSome {x : Except ε α} (h : x.toOption.isSome) : ∃ a, x = .ok a := by
  obtain ⟨a, ha⟩ := Option.isSome_iff_exists.1 h
  exact ⟨a, toOption_eq_some.1 ha⟩

/-- Item by item, each success has its place in the result. -/
theorem mapM_eq_ok {f : α → Except ε β} {xs : List α} {ys : List β} :
    xs.mapM f = .ok ys ↔ List.Forall₂ (fun x y => f x = .ok y) xs ys := by
  induction xs generalizing ys with
  | nil =>
    rw [List.mapM_nil, pure_eq_ok, List.forall₂_nil_left_iff, eq_comm]
  | cons x xs ih =>
    simp only [List.mapM_cons, bind_eq_ok, pure_eq_ok, ih, List.forall₂_cons_left_iff]
    constructor
    · intro h
      obtain ⟨y, hy, ys', hys, rfl⟩ := h
      exact ⟨y, ys', hy, hys, rfl⟩
    · intro h
      obtain ⟨y, ys', hy, hys, rfl⟩ := h
      exact ⟨y, hy, ys', hys, rfl⟩

/-- In two lists one after the other, all succeed if they do so in both. -/
theorem mapM_append_eq_ok {f : α → Except ε β} {xs ys : List α} {zs : List β} :
    (xs ++ ys).mapM f = .ok zs ↔
      ∃ us vs, xs.mapM f = .ok us ∧ ys.mapM f = .ok vs ∧ us ++ vs = zs := by
  simp only [List.mapM_append, bind_eq_ok, pure_eq_ok]
  constructor
  · intro h
    obtain ⟨us, hus, vs, hvs, h⟩ := h
    exact ⟨us, vs, hus, hvs, h⟩
  · intro h
    obtain ⟨us, vs, hus, hvs, h⟩ := h
    exact ⟨us, hus, vs, hvs, h⟩

/-- Partners for all items are found one item at a time. -/
theorem exists_forall₂ {R : α → β → Prop} {xs : List α} :
    (∃ ys, List.Forall₂ R xs ys) ↔ ∀ x ∈ xs, ∃ y, R x y := by
  induction xs with
  | nil => simp
  | cons x xs ih =>
    rw [List.forall_mem_cons, ← ih]
    constructor
    · intro h
      obtain ⟨ys, h⟩ := h
      cases h with
      | cons hx hxs => exact ⟨⟨_, hx⟩, ⟨_, hxs⟩⟩
    · intro h
      obtain ⟨⟨y, hx⟩, ⟨ys, hxs⟩⟩ := h
      exact ⟨y :: ys, .cons hx hxs⟩

theorem exists_of_forall₂ {R : α → β → Prop} {xs : List α} {ys : List β}
    (h : List.Forall₂ R xs ys) {x : α} (hx : x ∈ xs) : ∃ y ∈ ys, R x y := by
  induction h with
  | nil => cases hx
  | cons hr _ ih =>
    rcases List.mem_cons.1 hx with rfl | hx
    · exact ⟨_, List.mem_cons_self, hr⟩
    · obtain ⟨y, hy, hxy⟩ := ih hx
      exact ⟨y, List.mem_cons_of_mem _ hy, hxy⟩

theorem exists_mapM_eq_ok {f : α → Except ε β} {xs : List α} :
    (∃ ys, xs.mapM f = .ok ys) ↔ ∀ x ∈ xs, ∃ y, f x = .ok y := by
  simp only [mapM_eq_ok, exists_forall₂]

/-- Item by item, the first failure ends it. -/
theorem mapM_eq_error {f : α → Except ε β} {xs : List α} {e : ε} :
    xs.mapM f = .error e ↔ ∃ before x after ys,
      xs = before ++ x :: after ∧ before.mapM f = .ok ys ∧ f x = .error e := by
  constructor
  · intro h
    induction xs with
    | nil => cases h
    | cons x xs ih =>
      rw [List.mapM_cons, bind_eq_error] at h
      obtain hx | ⟨y, hy, h⟩ := h
      · exact ⟨[], x, xs, [], rfl, rfl, hx⟩
      rw [bind_eq_error] at h
      obtain hxs | ⟨ys, _, h⟩ := h
      · obtain ⟨before, x', after, ys, rfl, hb, hx'⟩ := ih hxs
        refine ⟨x :: before, x', after, y :: ys, rfl, ?_, hx'⟩
        rw [List.mapM_cons, hy, hb]; rfl
      · cases h
  · intro h
    obtain ⟨before, x, after, ys, rfl, hb, hx⟩ := h
    rw [List.mapM_append, hb, List.mapM_cons, hx]; rfl

theorem mapM_congr_of_mem {f g : α → Except ε β} {xs : List α} (h : ∀ x ∈ xs, f x = g x) :
    xs.mapM f = xs.mapM g := by
  induction xs with
  | nil => rfl
  | cons x xs ih =>
    rw [List.mapM_cons, List.mapM_cons, h x List.mem_cons_self,
      ih fun y hy => h y (List.mem_cons_of_mem _ hy)]

/-- It does not matter whether items are changed one by one or all at the end. -/
theorem map_mapM {γ : Type} (f : α → Except ε β) (g : β → γ) (xs : List α) :
    (xs.mapM f).map (·.map g) = xs.mapM fun x => (f x).map g := by
  induction xs with
  | nil => rfl
  | cons x xs ih =>
    rw [List.mapM_cons, List.mapM_cons, ← ih]
    cases f x with
    | error e => rfl
    | ok y => cases xs.mapM f <;> rfl

/-- What succeeds item by item is what is found item by item. -/
theorem eq_filterMap_of_mapM {f : α → Except ε β} {xs : List α} {ys : List β}
    (h : xs.mapM f = .ok ys) : ys = xs.filterMap fun x => (f x).toOption := by
  rw [mapM_eq_ok] at h
  induction h with
  | nil => rfl
  | cons hx _ ih => rw [List.filterMap_cons, toOption_eq_some.2 hx, ← ih]

namespace Logged

theorem result_map (f : α → β) (x : Logged α) : (f <$> x).result = x.result.map f := by
  obtain ⟨events, result⟩ := x
  cases result <;> rfl

theorem result_mapM (f : α → Logged β) (xs : List α) :
    (xs.mapM f).result = xs.mapM fun x => (f x).result := by
  induction xs with
  | nil => rfl
  | cons x xs ih =>
    simp only [List.mapM_cons, result_bind, ih]
    rfl

end Logged

end ToolBindings
