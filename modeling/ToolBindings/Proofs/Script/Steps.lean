import ToolBindings.Script.Running

/-!
# What steps of a script do to the machine

A step is taken from a machine to a machine. Most steps of a module leave everything in the store
as it is and put further objects behind it.

* `bind_of_ok`, `bind_of_error`, …: the steps of a machine one after the other.
* `Adds`: the machine has more in its store, and nothing else has changed but its marks.
* `Machine.Keeps`: nothing in the store is changed but what names stand for.
* `Machine.Spares`, `Machine.Returns`: nothing is changed but objects at some places.
* `object?_of_stored`, `put_adds`, …: what is at a place of the store.
* `nested_of_ok`, `nested_of_error`: a step inside one more call.
-/
namespace ToolBindings.Script
namespace Eval

/-! ## One step after the other -/

section
variable {α β : Type} {x : Eval α} {f : α → Eval β} {g : α → β} {a : α} {M M' : Machine}
  {halt : Halt}

theorem bind_of_ok (h : x M = (.ok a, M')) : (x >>= f) M = f a M' := by
  show (ExceptT.bindCont f (x M).1) (x M).2 = _
  rw [h]
  rfl

theorem bind_of_error (h : x M = (.error halt, M')) : (x >>= f) M = (.error halt, M') := by
  show (ExceptT.bindCont f (x M).1) (x M).2 = _
  rw [h]
  rfl

theorem map_of_ok (h : x M = (.ok a, M')) : (g <$> x) M = (.ok (g a), M') := by
  rw [map_eq_pure_bind, bind_of_ok h]
  rfl

theorem map_of_error (h : x M = (.error halt, M')) : (g <$> x) M = (.error halt, M') := by
  rw [map_eq_pure_bind, bind_of_error h]

end

end Eval

/-! ## Machines with more in their store -/

/-- A machine has further objects behind what is in the store, and further marks are used up. -/
def Adds (M M' : Machine) : Prop :=
  ∃ (objects : Array Object) (marks : Nat),
    M' = { M with store := M.store ++ objects, marks := M.marks + marks }

/-- What is at a place of the store. -/
def Machine.Stores (M : Machine) (place : Nat) (object : Object) : Prop :=
  M.store[place]? = some object

def Machine.push (M : Machine) (object : Object) : Machine :=
  { M with store := M.store.push object }

section
variable {M M' M'' : Machine} {place : Nat} {object : Object}

theorem Adds.refl (M : Machine) : Adds M M := ⟨#[], 0, by simp⟩

theorem Adds.trans (h : Adds M M') (h' : Adds M' M'') : Adds M M'' := by
  obtain ⟨objects, marks, rfl⟩ := h
  obtain ⟨others, more, rfl⟩ := h'
  exact ⟨objects ++ others, marks + more, by simp [Array.append_assoc, Nat.add_assoc]⟩

theorem Adds.stores (h : Adds M M') (hstored : M.Stores place object) : M'.Stores place object := by
  obtain ⟨objects, marks, rfl⟩ := h
  obtain ⟨hlt, hobject⟩ := Array.getElem?_eq_some_iff.1 hstored
  show (M.store ++ objects)[place]? = _
  rw [Array.getElem?_append_left hlt]
  exact hstored

theorem adds_push (M : Machine) (object : Object) : Adds M (M.push object) :=
  ⟨#[object], 0, by rw [Array.append_singleton, Nat.add_zero]; rfl⟩

theorem stores_push (M : Machine) (object : Object) : (M.push object).Stores M.store.size object :=
  Array.getElem?_push_size

namespace Eval

theorem put_eq (object : Object) (M : Machine) :
    put object M = (.ok (.object M.store.size), M.push object) := rfl

/-- What is put into the store is in it. -/
theorem put_adds (object : Object) (M : Machine) : ∃ place M',
    put object M = (.ok (.object place), M') ∧ Adds M M' ∧ M'.Stores place object :=
  ⟨_, _, put_eq object M, adds_push M object, stores_push M object⟩

theorem atom_adds (value : Atom) (M : Machine) : ∃ mark M',
    Eval.atom value M = (.ok (.atom value mark), M') ∧ Adds M M' :=
  ⟨_, _, rfl, #[], 1, by simp⟩

theorem objectAt_of_stored (h : M.Stores place object) :
    objectAt place M = (.ok object, M) := by
  show (Except.ok ((M.store[place]?).getD _), M) = _
  rw [h]
  rfl

theorem object?_of_stored (h : M.Stores place object) :
    object? (.object place) M = (.ok (some object), M) :=
  map_of_ok (objectAt_of_stored h)

end Eval

end

/-! ## What is kept -/

/-- What is in the store stays as it is; only the names of a frame can come to stand for something
else. -/
def Machine.Keeps (M M' : Machine) : Prop :=
  ∀ place object, M.Stores place object → (∀ names values, object ≠ .frame names values) →
    M'.Stores place object

/-- What is in the store stays as it is but at places that are somebody's own, and no library
comes to be where there is none. -/
structure Machine.Spares (own : Nat → Prop) (M M' : Machine) : Prop where
  stores : ∀ place object, ¬ own place → M.Stores place object → M'.Stores place object
  grows : M.store.size ≤ M'.store.size
  support : M'.support = M.support
  libraries : ∀ path, isLibrary M.support path = false →
    M'.libraries.lookup path = M.libraries.lookup path

/-- A step that changes no more than what is somebody's own, and after which no more calls are open
than before. -/
structure Machine.Returns (own : Nat → Prop) (M M' : Machine) : Prop extends M.Spares own M' where
  calls : M'.calls = M.calls

def Machine.enter (M : Machine) : Machine := { M with calls := M.calls + 1 }

def Machine.leave (M : Machine) : Machine := { M with calls := M.calls - 1 }

section
variable {M M' M'' : Machine} {own : Nat → Prop}

theorem Machine.Keeps.trans (h : M.Keeps M') (h' : M'.Keeps M'') : M.Keeps M'' :=
  fun place object hstored hframe => h' place object (h place object hstored hframe) hframe

theorem Adds.keeps (h : Adds M M') : M.Keeps M' := fun _ _ hstored _ => h.stores hstored

theorem Machine.Spares.refl (own : Nat → Prop) (M : Machine) : M.Spares own M :=
  ⟨fun _ _ _ h => h, Nat.le_refl _, rfl, fun _ _ => rfl⟩

theorem Machine.Spares.trans (h : M.Spares own M') (h' : M'.Spares own M'') : M.Spares own M'' where
  stores place object hown hstored :=
    h'.stores place object hown (h.stores place object hown hstored)
  grows := Nat.le_trans h.grows h'.grows
  support := h'.support.trans h.support
  libraries path hpath :=
    (h'.libraries path (by rw [h.support]; exact hpath)).trans (h.libraries path hpath)

theorem Machine.Returns.refl (own : Nat → Prop) (M : Machine) : M.Returns own M :=
  ⟨.refl own M, rfl⟩

theorem Machine.Returns.trans (h : M.Returns own M') (h' : M'.Returns own M'') :
    M.Returns own M'' :=
  ⟨h.toSpares.trans h'.toSpares, h'.calls.trans h.calls⟩

theorem Adds.returns (own : Nat → Prop) (h : Adds M M') : M.Returns own M' := by
  have hstores := fun place object (_ : ¬ own place) (hstored : M.Stores place object) =>
    h.stores hstored
  obtain ⟨objects, marks, rfl⟩ := h
  exact ⟨⟨hstores, by simp, rfl, fun _ _ => rfl⟩, rfl⟩

/-- What is spared is kept, if nothing is at the places that are somebody's own but frames. -/
theorem Machine.Spares.keeps (h : M.Spares own M')
    (hown : ∀ place object, own place → M.Stores place object →
      ∃ names values, object = .frame names values) : M.Keeps M' := by
  intro place object hstored hframe
  refine h.stores place object (fun hplace => ?_) hstored
  obtain ⟨names, values, rfl⟩ := hown place object hplace hstored
  exact hframe names values rfl

theorem Machine.Spares.enter (M : Machine) : M.Spares own M.enter :=
  ⟨fun _ _ _ h => h, Nat.le_refl _, rfl, fun _ _ => rfl⟩

theorem Machine.Spares.leave (M : Machine) : M.Spares own M.leave :=
  ⟨fun _ _ _ h => h, Nat.le_refl _, rfl, fun _ _ => rfl⟩

/-- What happens inside a call is seen behind it. -/
theorem Machine.Returns.nested (h : M.enter.Returns own M') : M.Returns own M'.leave where
  toSpares := (Machine.Spares.enter M).trans (h.toSpares.trans (.leave M'))
  calls := by
    show M'.calls - 1 = M.calls
    rw [h.calls]
    exact Nat.add_sub_cancel M.calls 1

namespace Eval
variable {α : Type} {step : Eval α} {a : α} {halt : Halt}

theorem get_eq (M : Machine) : (get : Eval Machine) M = (.ok M, M) := rfl

theorem modify_eq (change : Machine → Machine) (M : Machine) :
    (modify change : Eval Unit) M = (.ok (), change M) := rfl

theorem tryCatch_of_ok (handle : Halt → Eval α) (h : step M = (.ok a, M')) :
    tryCatchThe Halt step handle M = (.ok a, M') := by
  unfold tryCatchThe
  simp only [MonadExceptOf.tryCatch, ExceptT.tryCatch, ExceptT.mk, bind, StateT.bind, h]
  rfl

theorem tryCatch_of_error (handle : Halt → Eval α) (h : step M = (.error halt, M')) :
    tryCatchThe Halt step handle M = handle halt M' := by
  unfold tryCatchThe
  simp only [MonadExceptOf.tryCatch, ExceptT.tryCatch, ExceptT.mk, bind, StateT.bind, h]

theorem caught_of_ok (h : step M = (.ok a, M')) : caught step M = (.ok (.ok a), M') :=
  tryCatch_of_ok _ (map_of_ok h)

theorem nested_of_ok (hcalls : M.calls < maxCalls) (h : step M.enter = (.ok a, M')) :
    nested step M = (.ok a, M'.leave) := by
  unfold nested
  refine (bind_of_ok (get_eq M)).trans ?_
  rw [if_neg (Nat.not_le.2 hcalls)]
  refine (bind_of_ok (modify_eq Machine.enter M)).trans ?_
  exact (bind_of_ok (tryCatch_of_ok _ h)).trans rfl

theorem nested_of_error (hcalls : M.calls < maxCalls) (h : step M.enter = (.error halt, M')) :
    nested step M = (.error halt, M'.leave) := by
  unfold nested
  refine (bind_of_ok (get_eq M)).trans ?_
  rw [if_neg (Nat.not_le.2 hcalls)]
  refine (bind_of_ok (modify_eq Machine.enter M)).trans ?_
  exact (bind_of_error ((tryCatch_of_error _ h).trans rfl)).trans rfl

end Eval

end

end ToolBindings.Script
