import ToolBindings.Script.Datum
/-!
# Arithmetic

What operators make of two numbers or the names of the errors that they end with, and which
items of a sequence an index or a slice stands for.
-/
namespace ToolBindings.Script

/-! ## Numbers -/

/-- The largest number of bits that a whole number may have. -/
def maxBits : Nat := 1000000

/-- The number of bits of a whole number, with one for its sign. -/
def bitLength (n : Int) : Nat := n.natAbs.log2 + 2

/-- Combines the bits of two numbers, of which a negative one has ones without end. -/
def onBits (op : Nat → Nat → Nat) (a b : Int) : Int :=
  let range : Nat := 1 <<< (max (bitLength a) (bitLength b) + 1)
  let result : Int := op (a % range).toNat (b % range).toNat
  if 2 * result < range then result else result - range

/-- What an operator makes of two whole numbers. -/
def onInts (op : BinaryOp) (m n : Int) : Except String Atom :=
  match op with
  | .add => .ok (.int (m + n))
  | .sub => .ok (.int (m - n))
  | .mul => .ok (.int (m * n))
  | .div =>
    if n = 0 then .error "ZeroDivisionError"
    else
      let quotient := Float.ofInt m / Float.ofInt n
      if quotient.isFinite then .ok (.float quotient) else .error "OverflowError"
  | .floorDiv => if n = 0 then .error "ZeroDivisionError" else .ok (.int (m.fdiv n))
  | .mod => if n = 0 then .error "ZeroDivisionError" else .ok (.int (m.fmod n))
  | .pow =>
    if n < 0 then
      if m = 0 then .error "ZeroDivisionError"
      else .ok (.float ((Float.ofInt m).pow (Float.ofInt n)))
    else if m.natAbs ≥ 2 ∧ bitLength m * n.toNat > maxBits then .error "MemoryError"
    else if m.natAbs ≤ 1 then .ok (.int (m.pow (if n = 0 then 0 else 2 - n.toNat % 2)))
    else .ok (.int (m.pow n.toNat))
  | .shiftLeft =>
    if n < 0 then .error "ValueError"
    else if m ≠ 0 ∧ n.toNat > maxBits then .error "MemoryError"
    else if m = 0 then .ok (.int 0)
    else .ok (.int (m * (1 <<< n.toNat : Nat)))
  | .shiftRight =>
    if n < 0 then .error "ValueError" else .ok (.int (m.fdiv (1 <<< min n.toNat (bitLength m) : Nat)))
  | .bitAnd => .ok (.int (onBits (· &&& ·) m n))
  | .bitOr => .ok (.int (onBits (· ||| ·) m n))
  | .bitXor => .ok (.int (onBits (· ^^^ ·) m n))
  | .matMul => .error "TypeError"

/-- What an operator makes of two numbers with a fraction. -/
def onFloats (op : BinaryOp) (x y : Float) : Except String Atom :=
  match op with
  | .add => .ok (.float (x + y))
  | .sub => .ok (.float (x - y))
  | .mul => .ok (.float (x * y))
  | .div => if y == 0 then .error "ZeroDivisionError" else .ok (.float (x / y))
  | .floorDiv => if y == 0 then .error "ZeroDivisionError" else .ok (.float (x / y).floor)
  | .mod =>
    let rest := x - y * (x / y).floor
    if y == 0 then .error "ZeroDivisionError"
    else .ok (.float (if rest == 0 then (if y < 0 then -0.0 else 0.0) else rest))
  | .pow =>
    let power := x.pow y
    if x == 0 && y < 0 then .error "ZeroDivisionError"
    else if power.isInf && x.isFinite && y.isFinite then .error "OverflowError"
    else .ok (.float power)
  | _ => .error "TypeError"

/-- What an operator makes of two numbers; `none` if they are no numbers. Bits of two truth
values make a truth value. -/
def onNumbers (op : BinaryOp) (a b : Atom) : Option (Except String Atom) :=
  match op, a, b with
  | .bitAnd, .bool p, .bool q => some (.ok (.bool (p && q)))
  | .bitOr, .bool p, .bool q => some (.ok (.bool (p || q)))
  | .bitXor, .bool p, .bool q => some (.ok (.bool (p != q)))
  | op, a, b =>
    match a.int?, b.int? with
    | some m, some n => some (onInts op m n)
    | _, _ =>
      match a.float?, b.float? with
      | some x, some y => some (onFloats op x y)
      | _, _ => none

/-- How two things that are in an order compare. -/
def Comparison.ofOrder (op : Comparison) (less equal : Bool) : Bool :=
  match op with
  | .lt => less
  | .le => less || equal
  | .gt => !less && !equal
  | .ge => !less
  | _ => false

/-- How two numbers compare; `none` if they are no numbers. -/
def orderNumbers (op : Comparison) (a b : Atom) : Option Bool :=
  match a.int?, b.int? with
  | some m, some n => some (op.ofOrder (m < n) (m == n))
  | _, _ =>
    match a.float?, b.float? with
    | some x, some y => some (!(x.isNaN || y.isNaN) && op.ofOrder (x < y) (x == y))
    | _, _ => none

/-! ## Sequences -/

/-- The place for which an index stands. A negative one counts from the end. -/
def placeOf? (length : Nat) (index : Int) : Option Nat :=
  let place := if index < 0 then index + length else index
  if 0 ≤ place ∧ place < length then some place.toNat else none

/-- How many steps lead from one number to another. -/
def stepCount (first last step : Int) : Nat :=
  if step > 0 then ((last - first + step - 1).fdiv step).toNat
  else if step < 0 then ((first - last - step - 1).fdiv (-step)).toNat
  else 0

/-- The end of a slice, which may lie outside of the sequence. -/
def sliceEnd (length : Nat) (step : Int) (index : Int) : Int :=
  let index := if index < 0 then index + length else index
  if step < 0 then max (-1) (min index (length - 1)) else max 0 (min index length)

/-- The first place of a slice, and the place at which it has ended. -/
def sliceEnds (length : Nat) (first last : Option Int) (step : Int) : Int × Int :=
  ((first.map (sliceEnd length step)).getD (if step < 0 then length - 1 else 0),
    (last.map (sliceEnd length step)).getD (if step < 0 then -1 else length))

/-- The first place and the number of places of a slice. -/
def sliceExtent (length : Nat) (first last : Option Int) (step : Int) : Int × Nat :=
  let (first, last) := sliceEnds length first last step
  (first, stepCount first last step)

/-- Numbers that are a step apart. -/
def steps (first step : Int) (count : Nat) : List Int :=
  (List.range count).map fun (i : Nat) => first + step * i

def slicePlaces (length : Nat) (first last : Option Int) (step : Int) : List Nat :=
  let (start, count) := sliceExtent length first last step
  (steps start step count).map Int.toNat

end ToolBindings.Script
