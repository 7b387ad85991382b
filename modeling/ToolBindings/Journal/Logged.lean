import ToolBindings.Failure
import ToolBindings.Journal.Event
/-!
# Computations that report events

A `Logged` computation reports events in order and ends in a result or a failure. The
events before a failure are kept, because they have been reported by then.

* `result_bind`: the results alone compose as in `Except`.
* `events_bind`: what comes after a failure reports nothing.
-/
namespace ToolBindings

/-- The outcome of a computation together with what it reported. -/
structure Logged (α : Type) where
  events : List Event
  result : Except Failure α

namespace Logged

instance : Monad Logged where
  pure a := ⟨[], .ok a⟩
  bind x f :=
    match x.result with
    | .ok a =>
      let next := f a
      ⟨x.events ++ next.events, next.result⟩
    | .error e => ⟨x.events, .error e⟩

def report (event : Event) : Logged Unit := ⟨[event], .ok ()⟩

def ofExcept {α : Type} (result : Except Failure α) : Logged α := ⟨[], result⟩

/-- Fails without reporting anything. -/
def fail {α : Type} (failure : Failure) : Logged α := ⟨[], .error failure⟩

def reject {α : Type} (reason : Rejection) : Logged α := fail (.rejected reason)

variable {α β : Type}

@[simp] theorem events_pure (a : α) : (pure a : Logged α).events = [] := rfl

@[simp] theorem result_pure (a : α) : (pure a : Logged α).result = .ok a := rfl

@[simp] theorem result_bind (x : Logged α) (f : α → Logged β) :
    (x >>= f).result = x.result >>= fun a => (f a).result := by
  obtain ⟨events, result⟩ := x
  cases result <;> rfl

theorem events_bind (x : Logged α) (f : α → Logged β) :
    (x >>= f).events =
      x.events ++ (match x.result with | .ok a => (f a).events | .error _ => []) := by
  obtain ⟨events, result⟩ := x
  cases result
  · exact (List.append_nil _).symm
  · rfl

@[simp] theorem events_fail (failure : Failure) : (fail failure : Logged α).events = [] := rfl

@[simp] theorem result_fail (failure : Failure) :
    (fail failure : Logged α).result = .error failure := rfl

@[simp] theorem events_report (event : Event) : (report event).events = [event] := rfl

@[simp] theorem result_report (event : Event) : (report event).result = .ok () := rfl

@[simp] theorem result_ofExcept (result : Except Failure α) :
    (ofExcept result).result = result := rfl

@[simp] theorem events_ofExcept (result : Except Failure α) : (ofExcept result).events = [] := rfl

instance : LawfulMonad Logged :=
  LawfulMonad.mk' Logged
    (fun x => by
      obtain ⟨events, result⟩ := x
      cases result
      · rfl
      · simp [Functor.map])
    (fun _ _ => rfl)
    (fun x f g => by
      obtain ⟨events, result⟩ := x
      cases result with
      | error e => rfl
      | ok a =>
        simp only [bind]
        cases (f a).result <;> simp)

end Logged

end ToolBindings
