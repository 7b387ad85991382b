import ToolBindings.Script.Reader.Statement
import ToolBindings.Script.Scope
/-!
# Sound scripts

A script has more rules than its grammar. `Scope.isSound` checks them: a name is declared to
belong elsewhere before it is used, a name that belongs to an outer function has a value
there, and what is meaningful only in functions, or only in those that wait, stands in one.

`Program.ofText?` reads a script and checks it.
-/
namespace ToolBindings.Script

/-! ## Names -/

/-- The names that a scope has seen so far. -/
structure NamesSoFar where
  /-- Names that are read, bound or annotated. -/
  touched : List String := []
  annotated : List String := []
  globals : List String := []
  nonlocals : List String := []
  /-- Whether all was in order. -/
  sound : Bool := true

namespace Occurrence

/-- The values that comprehensions inside assign to names of the scope around them. -/
def assignedInside (bound : Nat) (occurrences : List Occurrence) : List String :=
  match bound with
  | 0 => []
  | bound + 1 => occurrences.flatMap fun
    | scope (.mk (.comprehension _) _ inner) =>
      (inner.filterMap fun
        | assign id => some id
        | _ => none) ++ assignedInside bound inner
    | _ => []

def bound? : Occurrence → Option String
  | bind id | load id | annotate id | assign id => some id
  | _ => none

def global? : Occurrence → Option String
  | global id => some id
  | _ => none

/-- The names that an occurrence declares as those of an outer function. -/
def nonlocal? : Occurrence → Option String
  | nonlocal id => some id
  | _ => none

end Occurrence

/-- The names after one more occurrence. A declaration comes before any use. -/
def NamesSoFar.see (depth : Nat) (kind : ScopeKind) (seen : NamesSoFar) (o : Occurrence) :
    NamesSoFar :=
  match o with
  | .read id | .bind id => { seen with touched := id :: seen.touched }
  | .assign id =>
    match kind with
    | .comprehension _ => seen
    | _ => { seen with touched := id :: seen.touched }
  | .annotate id =>
    { seen with
      touched := id :: seen.touched, annotated := id :: seen.annotated
      sound := seen.sound && (kind = .script || !(seen.globals ++ seen.nonlocals).contains id) }
  | .global id =>
    { seen with globals := id :: seen.globals, sound := seen.sound && !seen.touched.contains id }
  | .nonlocal id =>
    { seen with
      nonlocals := id :: seen.nonlocals
      sound := seen.sound && kind ≠ .script && !seen.touched.contains id }
  | .scope _ =>
    if kind = .script then seen
    else { seen with touched := Occurrence.assignedInside depth [o] ++ seen.touched }
  | _ => seen

/-! ## Scopes -/

/-- Whether a comprehension waits for its items: it does so itself, or one inside it does that
makes them all at once. -/
def waits (bound : Nat) (occurrences : List Occurrence) : Bool :=
  match bound with
  | 0 => false
  | bound + 1 => occurrences.any fun
    | .asyncClause | .await => true
    | .scope (.mk (.comprehension kind) _ inner) => kind ≠ .lazy && waits bound inner
    | _ => false

/-- Whether a statement or an expression may stand in a scope of a kind. -/
def Occurrence.fits (kind : ScopeKind) (yields : Bool) : Occurrence → Bool
  | .yield => kind.isFunction
  | .yieldAll => kind = .function false
  | .await => kind = .function true || kind.isComprehension
  | .asyncStatement => kind = .function true
  | .give value => kind.isFunction && !(value && yields && kind = .function true)
  | .loadAll => kind = .script
  | .misplaced => false
  | .bind id | .load id | .annotate id => id ≠ fixedName
  | .assign id => id ≠ fixedName && kind ≠ .unevaluated
  | _ => true

/-- The names of the loops of a comprehension and those of the comprehensions around it. -/
def loopNames (occurrences : List Occurrence) : List String :=
  occurrences.filterMap fun
    | .bind id => some id
    | _ => none

/-- Whether a scope is sound, given the kind of the scope around it, the names of outer
functions that it sees, and the names of the loops of comprehensions around it. -/
def Scope.isSound (bound : Nat) (around : ScopeKind) (visible loops : List String)
    (scope : Scope) : Bool :=
  match bound, scope with
  | 0, _ => true
  | bound + 1, .mk kind parameters occurrences =>
    let inComprehension := kind.isComprehension
    let start : NamesSoFar := { touched := parameters }
    let seen := occurrences.foldl (NamesSoFar.see bound kind) start
    let yields := occurrences.any fun
      | .yield => true
      | _ => false
    let loops := if inComprehension then loopNames occurrences ++ loops else []
    let inner := Occurrence.assignedInside bound occurrences
    let assigned := if inComprehension then
      occurrences.filterMap fun
        | .assign id => some id
        | _ => none
      else []
    let globals := occurrences.filterMap Occurrence.global?
    let own := parameters ++ (if inComprehension then loopNames occurrences
      else occurrences.filterMap Occurrence.bound? ++ inner)
    let isFunction := kind.isFunction || kind.isComprehension
    let passedOn := if isFunction then (own ++ visible).filter (!globals.contains ·) else visible
    seen.sound && !hasRepeated parameters && !parameters.contains fixedName &&
      occurrences.all (Occurrence.fits kind yields) &&
      seen.nonlocals.all (fun id => visible.contains id && !globals.contains id) &&
      !(kind = .type && !inner.isEmpty) &&
      !(assigned.any loops.contains) &&
      (match kind with
        | .comprehension collection =>
          collection = .lazy || !waits bound occurrences || around = .function true ||
            around.isComprehension
        | _ => true) &&
      occurrences.all fun
        | .scope inner => inner.isSound bound kind passedOn loops
        | _ => true

/-- The script that a text is, if it is sound. -/
def Program.ofText? (text : String) : Except Flaw Program := do
  let program ← Program.read? text
  let bound := text.length + 2
  if (program.scope bound).isSound bound .script [] [] then return program else throw .form

end ToolBindings.Script
