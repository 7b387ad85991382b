import ToolBindings.Script.Arithmetic
import ToolBindings.Script.Writing
/-!
# Operations on values

Whether a value counts as true, the items of what can be gone through, comparisons, operators,
and what is reached by an index. Scripts can define methods for most of these; what the
language itself does not define is an error.
-/
namespace ToolBindings.Script
open Eval

/-- Calls a method that a script defines for what is done with a value, if it defines it. -/
def callSpecial? (r : Runner) (value : Datum) (name : String) (arguments : List Datum) :
    Eval (Option Datum) := do
  match ← special? value name with
  | some function => some <$> r.call function ⟨arguments, []⟩
  | none => return none

/-! ## Truth -/

def Atom.holds : Atom → Bool
  | none => false
  | notImplemented | ellipsis => true
  | bool value => value
  | int value => value ≠ 0
  | float value => value != 0
  | text value => value ≠ ""
  | octets value => value ≠ []

/-- The number of items, if a value of the language has one. -/
def length? (value : Datum) : Eval (Option Nat) := do
  match value, ← object? value with
  | .atom (.text value) _, _ => return some value.length
  | .atom (.octets value) _, _ => return some value.length
  | .tuple items _, _ => return some items.length
  | .range first last step, _ => return some (stepCount first last step)
  | _, some (.list items) | _, some (.set items _) => return some items.length
  | _, some (.dict entries) => return some entries.length
  | _, _ => return none

/-- Whether a value counts as true. -/
def truth (r : Runner) (value : Datum) : Eval Bool := do
  match value, ← length? value with
  | .atom a _, _ => return a.holds
  | _, some length => return length ≠ 0
  | value, none =>
    match ← callSpecial? r value "__bool__" [] with
    | some (.atom (.bool result) _) => return result
    | some .unknown => return true
    | some _ => fail "TypeError"
    | none =>
      match ← callSpecial? r value "__len__" [] with
      | some length => return (length.int?.getD 1) ≠ 0
      | none => return true

/-! ## Items -/

/-- The most items that anything is made of. -/
def maxItems : Nat := 100000

def Function.scene (function : Function) (frame : Nat) : Scene :=
  { shared := true, frame, globals := function.globals, outer := function.outer }

/-- Runs the body of a function that yields. The answer is what it yields, and the error with
which it ends. -/
def yieldedBy (r : Runner) (function : Function) (frame : Nat) :
    Eval (List Datum × Option Datum) := do
  let before := (← get).yielded
  modify fun machine => { machine with yielded := [] }
  let result ← caught (nested (r.block (function.scene frame) function.body))
  let items := (← get).yielded.reverse
  modify fun machine => { machine with yielded := before }
  match result with
  | .ok _ => return (items, none)
  | .error error =>
    if ← isOf error "StopIteration" then
      return (items, some (← newError (.type "RuntimeError") []))
    return (items, some error)

/-- The items that an object defined by a script gives one after the other. -/
def itemsFromNext (r : Runner) (value : Datum) : Nat → Eval (List Datum × Option Datum)
  | 0 => throwThe Halt .exhausted
  | bound + 1 => do
    match ← special? value "__next__" with
    | none => fail "TypeError"
    | some function =>
      match ← caught (r.call function {}) with
      | .ok item =>
        let (rest, failure) ← itemsFromNext r value bound
        return (item :: rest, failure)
      | .error error =>
        return ([], if ← isOf error "StopIteration" then none else some error)

/-- Lists of items, side by side. -/
def sideBySide : Nat → List (List Datum) → List (List Datum)
  | 0, _ => []
  | count + 1, columns =>
    columns.filterMap List.head? :: sideBySide count (columns.map List.tail)

/-- The items of what is made only when it is gone through, given those of its parts. -/
def pendingItems (r : Runner) (type : String) (first : Option Datum) (columns : List (List Datum)) :
    Eval (List Datum) := do
  let count := ((columns.map List.length).min?).getD 0
  let rows := sideBySide count columns
  match type, first with
  | "zip", _ => rows.mapM tuple
  | "map", some function => rows.mapM fun row => r.call function ⟨row, []⟩
  | "filter", some function =>
    columns.flatten.filterM fun item => do
      if function.isNone then truth r item else truth r (← r.call function ⟨[item], []⟩)
  | "enumerate", start =>
    (columns.flatten.zipIdx).mapM fun (item, i) => do
      tuple [← int (i + ((start.bind Datum.int?).getD 0)), item]
  | _, _ => return columns.flatten.reverse

/-- The items of a value of the language, and the error behind them. -/
def plainItems? (r : Runner) (value : Datum) : Eval (Option (List Datum × Option Datum)) := do
  let all := fun (items : List Datum) => some (items, (none : Option Datum))
  match value, ← object? value with
  | .atom (.text value) _, _ => return all (← value.toList.mapM fun c => text (String.singleton c))
  | .atom (.octets value) _, _ => return all (value.map fun octet => .smallInt octet.toNat)
  | .tuple items _, _ => return all items
  | .range first last step, _ =>
    let count := stepCount first last step
    if count > maxItems then throwThe Halt .exhausted
    return all (← (steps first step count).mapM int)
  | .unknown, _ => return all []
  | _, some (.list items) | _, some (.set items _) => return all items
  | _, some (.dict entries) => return all (entries.map (·.1))
  | .object place, some (.iterator items failure) =>
    replace place (.iterator [] none)
    return some (items, failure)
  | .object place, some (.generator function frame) =>
    if function.async then return none
    replace place (.iterator [] none)
    return some (← yieldedBy r function frame)
  | _, _ => return none

/-- The items of a value, and the error behind them. Parts of what is made only when it is gone
through can be such things themselves; the bound is on how deep they are. -/
def itemsAndFailure (r : Runner) : Nat → Datum → Eval (List Datum × Option Datum)
  | 0, _ => throwThe Halt .exhausted
  | bound + 1, value => do
    match ← plainItems? r value, value, ← object? value with
    | some found, _, _ => return found
    | none, .object place, some (.pending type arguments) =>
      replace place (.iterator [] none)
      let (first, parts) := if type = "zip" then (none, arguments)
        else (arguments.head?, arguments.tail)
      let found ← parts.mapM (itemsAndFailure r bound)
      match ← caught (pendingItems r type first (found.map (·.1))) with
      | .ok items => return (items, found.findSome? (·.2))
      | .error error => return ([], some error)
    | none, value, _ =>
      match ← callSpecial? r value "__iter__" [] with
      | some inner =>
        if (← special? inner "__next__").isSome then itemsFromNext r inner maxItems
        else itemsAndFailure r bound inner
      | none => fail "TypeError"

def items (r : Runner) (value : Datum) : Eval (List Datum) := do
  let (items, failure) ← itemsAndFailure r 100 value
  match failure with
  | some error => raise error
  | none => return items

/-! ## Keys -/

mutual

def isKey : Datum → Eval Bool
  | .tuple parts _ => areKeys parts
  | .slice .. => return false
  | value => do
    match ← object? value with
    | some (.list _) | some (.dict _) | some (.set _ false) => return false
    | some (.record type _) =>
      let types ← lineageOfType type
      return (← definedIn? "__eq__" types).isNone || (← definedIn? "__hash__" types).isSome
    | _ => return true

def areKeys : List Datum → Eval Bool
  | [] => return true
  | part :: rest => do
    if ← isKey part then areKeys rest else return false

end

def checkKey (value : Datum) : Eval Unit := do
  if !(← isKey value) then fail "TypeError"

def valueOfKey? (entries : List (Datum × Datum)) (key : Datum) : Option Datum :=
  (entries.find? fun entry => entry.1.isSameKey key).map (·.2)

/-- Sets the value of a key, at its place if it has one. -/
def putKey (entries : List (Datum × Datum)) (key value : Datum) : List (Datum × Datum) :=
  if (valueOfKey? entries key).isSome then
    entries.map fun entry => if entry.1.isSameKey key then (entry.1, value) else entry
  else entries ++ [(key, value)]

/-- The items without those that are the same key as one before. -/
def withoutSameKeys (items : List Datum) : List Datum :=
  items.foldl (fun found item => if found.any item.isSameKey then found else found ++ [item]) []

def newDict (entries : List (Datum × Datum)) : Eval Datum := do
  for (key, _) in entries do checkKey key
  put (.dict (entries.foldl (fun entries (key, value) => putKey entries key value) []))

def newSet (items : List Datum) (frozen : Bool) : Eval Datum := do
  for item in items do checkKey item
  put (.set (withoutSameKeys items) frozen)

/-! ## Comparing -/

def sameOrEqual (r : Runner) (a b : Datum) : Eval Bool := do
  if a.isSame b then return true else r.holds .eq a b

def isAmong (r : Runner) (item : Datum) : List Datum → Eval Bool
  | [] => return false
  | other :: rest => do
    if ← sameOrEqual r other item then return true else isAmong r item rest

def equalItems (r : Runner) : List Datum → List Datum → Eval Bool
  | [], [] => return true
  | a :: as, b :: bs => do
    if ← sameOrEqual r a b then equalItems r as bs else return false
  | _, _ => return false

/-- How lists compare: at the first items that differ, or by their lengths. -/
def orderItems (r : Runner) (op : Comparison) : List Datum → List Datum → Eval Bool
  | a :: as, b :: bs => do
    if ← sameOrEqual r a b then orderItems r op as bs else r.holds op a b
  | as, bs => return op.ofOrder (as.length < bs.length) (as.length == bs.length)

def areKeysOf (keys others : List Datum) : Bool := keys.all fun key => others.any key.isSameKey

def isEqual (r : Runner) (a b : Datum) : Eval Bool := do
  match a, b, ← object? a, ← object? b with
  | .atom a _, .atom b _, _, _ => return a.equals b
  | .tuple as _, .tuple bs _, _, _ => equalItems r as bs
  | .range .., .range .., _, _ => return a.isSameKey b
  | .slice a b c, .slice d e f, _, _ => equalItems r [a, b, c] [d, e, f]
  | _, _, some (.list as), some (.list bs) => equalItems r as bs
  | _, _, some (.set as _), some (.set bs _) =>
    return as.length == bs.length && areKeysOf as bs
  | _, _, some (.dict as), some (.dict bs) =>
    if as.length ≠ bs.length then return false
    as.allM fun (key, value) => do
      match valueOfKey? bs key with
      | some other => sameOrEqual r value other
      | none => return false
  | a, b, _, _ =>
    for (value, other) in [(a, b), (b, a)] do
      match ← callSpecial? r value "__eq__" [other] with
      | some (.atom .notImplemented _) | none => continue
      | some result => return ← truth r result
    return a.isSame b

/-- The methods by which scripts define an order, and those that define it the other way round. -/
def orderMethods : Comparison → String × String
  | .lt => ("__lt__", "__gt__")
  | .le => ("__le__", "__ge__")
  | .gt => ("__gt__", "__lt__")
  | _ => ("__ge__", "__le__")

/-- How two values compare that have an order. -/
def order (r : Runner) (op : Comparison) (a b : Datum) : Eval Bool := do
  match a, b, ← object? a, ← object? b with
  | .unknown, _, _, _ | _, .unknown, _, _ => return true
  | .atom (.text a) _, .atom (.text b) _, _, _ => return op.ofOrder (a < b) (a == b)
  | .atom (.octets a) _, .atom (.octets b) _, _, _ => return op.ofOrder (a < b) (a == b)
  | .tuple as _, .tuple bs _, _, _ => orderItems r op as bs
  | _, _, some (.list as), some (.list bs) => orderItems r op as bs
  | _, _, some (.set as _), some (.set bs _) =>
    let (below, above) := (areKeysOf as bs, areKeysOf bs as)
    return match op with
      | .lt => below && !above
      | .le => below
      | .gt => above && !below
      | _ => above
  | .atom a _, .atom b _, _, _ =>
    match orderNumbers op a b with
    | some result => return result
    | none => fail "TypeError"
  | a, b, _, _ =>
    let (method, reflected) := orderMethods op
    for (value, name, other) in [(a, method, b), (b, reflected, a)] do
      match ← callSpecial? r value name [other] with
      | some (.atom .notImplemented _) | none => continue
      | some result => return ← truth r result
    fail "TypeError"

/-- Whether a text stands in another. -/
def isInside [BEq α] (part whole : List α) : Bool :=
  (List.range (whole.length + 1)).any fun i => part.isPrefixOf (whole.drop i)

def contains (r : Runner) (container item : Datum) : Eval Bool := do
  match container, ← object? container with
  | .unknown, _ => return true
  | .atom (.text whole) _, _ =>
    match item with
    | .atom (.text part) _ => return isInside part.toList whole.toList
    | .unknown => return true
    | _ => fail "TypeError"
  | .atom (.octets whole) _, _ =>
    match item with
    | .atom (.octets part) _ => return isInside part whole
    | .atom a _ =>
      match a.int? with
      | some n =>
        if n < 0 ∨ 255 < n then fail "ValueError"
        return whole.any fun octet => (octet.toNat : Int) == n
      | none => fail "TypeError"
    | _ => fail "TypeError"
  | .range first last step, _ =>
    match item with
    | .atom a _ =>
      match a.int? with
      | some n => return (n - first) % step == 0 && (if step > 0 then first ≤ n && n < last
          else last < n && n ≤ first)
      | none => return (steps first step (stepCount first last step)).any fun n => a.equals (.int n)
    | _ => return false
  | _, some (.dict entries) =>
    checkKey item
    return (valueOfKey? entries item).isSome
  | _, some (.set keys _) =>
    if !(← isOf item "set") then checkKey item
    return keys.any item.isSameKey
  | value, _ =>
    match ← callSpecial? r value "__contains__" [item] with
    | some result => truth r result
    | none => isAmong r item (← items r value)

/-- Whether two values compare as an operator says. -/
def holds (r : Runner) (op : Comparison) (a b : Datum) : Eval Bool := do
  match op with
  | .same => return a.isSame b
  | .notSame => return !a.isSame b
  | .eq => isEqual r a b
  | .ne =>
    match ← callSpecial? r a "__ne__" [b] with
    | some (.atom .notImplemented _) | none => return !(← isEqual r a b)
    | some result => truth r result
  | .within => contains r b a
  | .notWithin => return !(← contains r b a)
  | op => order r op a b

/-! ## Operators -/

/-- A text, which is one of some values if it has the same content. -/
def textOrOneOf (values : List Datum) (result : String) : Eval Datum := do
  match values.find? fun value => value.text? == some result with
  | some value => return value
  | none => text result

/-- The name of the method that defines an operator. -/
def BinaryOp.method : BinaryOp → String
  | add => "add"
  | sub => "sub"
  | mul => "mul"
  | matMul => "matmul"
  | div => "truediv"
  | floorDiv => "floordiv"
  | mod => "mod"
  | pow => "pow"
  | shiftLeft => "lshift"
  | shiftRight => "rshift"
  | bitAnd => "and"
  | bitOr => "or"
  | bitXor => "xor"

def repeated {α : Type} (items : List α) (count : Int) : Eval (List α) := do
  if items.length * count.toNat > maxItems * 10 then fail "MemoryError"
  return (List.replicate count.toNat items).flatten

/-- A sequence several times, if it is one. -/
def repeated? (sequence : Datum) (count : Int) : Eval (Option Datum) := do
  match sequence, ← object? sequence with
  | .atom (.text value) _, _ =>
    if count = 1 then return some sequence
    some <$> text (String.ofList (← repeated value.toList count))
  | .atom (.octets value) _, _ =>
    if count = 1 then return some sequence
    some <$> atom (.octets (← repeated value count))
  | .tuple items _, _ =>
    if count = 1 then return some sequence
    some <$> tuple (← repeated items count)
  | _, some (.list items) => some <$> list (← repeated items count)
  | _, _ => return none

/-- What an operator makes of two sets. -/
def onSets (op : BinaryOp) (as bs : List Datum) : Option (List Datum) :=
  let keep := fun (inside : Bool) (items others : List Datum) =>
    items.filter fun item => others.any item.isSameKey == inside
  match op with
  | .sub => some (keep false as bs)
  | .bitAnd => some (keep true as bs)
  | .bitOr => some (as ++ keep false bs as)
  | .bitXor => some (keep false as bs ++ keep false bs as)
  | _ => none

/-- What an operator of the language makes of two values; `none` if it is not defined for them. -/
def plainBinary? (r : Runner) (op : BinaryOp) (a b : Datum) : Eval (Option Datum) := do
  match op, a, b, ← object? a, ← object? b with
  | _, .unknown, _, _, _ | _, _, .unknown, _, _ => return some .unknown
  | .add, .atom (.text x) _, .atom (.text y) _, _, _ =>
    if y = "" then return some a else if x = "" then return some b else some <$> text (x ++ y)
  | .add, .atom (.octets x) _, .atom (.octets y) _, _, _ =>
    if y = [] then return some a else if x = [] then return some b
    else some <$> atom (.octets (x ++ y))
  | .add, .tuple x _, .tuple y _, _, _ =>
    if y.isEmpty then return some a else if x.isEmpty then return some b
    else some <$> tuple (x ++ y)
  | .add, _, _, some (.list x), some (.list y) => some <$> list (x ++ y)
  | .mod, .atom (.text pattern) _, value, _, _ =>
    let candidates := match value with
      | .tuple values _ => values
      | value => [value]
    let single := (pattern.toList.filter (· = '%')).length = 1 && pattern.startsWith "%"
    some <$> textOrOneOf (if single && pattern.endsWith "s" then candidates else [])
      (← filledByPercent r pattern value)
  | .mod, .atom (.octets pattern) _, value, _, _ =>
    if pattern.contains 0x25 then return some .unknown
    let _ ← filledByPercent r "" value
    return some a
  | .bitOr, _, _, some (.dict x), some (.dict y) => some <$> newDict (x ++ y)
  | op, _, _, some (.set x frozen), some (.set y _) =>
    match onSets op x y with
    | some found => some <$> put (.set found frozen)
    | none => return none
  | .shiftLeft, .atom (.int _) _, .atom (.int 0) _, _, _
  | .shiftRight, .atom (.int _) _, .atom (.int 0) _, _, _ => return some a
  | op, .atom x _, .atom y _, _, _ =>
    match onNumbers op x y with
    | some result => some <$> atom (← orFail result)
    | none =>
      match op, x.int?, y.int? with
      | .mul, _, some count => repeated? a count
      | .mul, some count, _ => repeated? b count
      | _, _, _ => return none
  | .mul, sequence, .atom count _, _, _ | .mul, .atom count _, sequence, _, _ =>
    match count.int? with
    | some count => repeated? sequence count
    | none => return none
  | .bitOr, a, b, _, _ =>
    let fits := fun (value : Datum) => return (← isType value) || value.isNone
    let anyType := (← isType a) || (← isType b)
    return if anyType && (← fits a) && (← fits b) then some .unknown else none
  | _, _, _, _, _ => return none

/-- What an operator makes of two values. -/
def binary (r : Runner) (op : BinaryOp) (a b : Datum) : Eval Datum := do
  let attempts := [(a, "__" ++ op.method ++ "__", b), (b, "__r" ++ op.method ++ "__", a)]
  for (value, name, other) in attempts do
    match ← callSpecial? r value name [other] with
    | some (.atom .notImplemented _) | none => continue
    | some result => return result
  match ← plainBinary? r op a b with
  | some result => return result
  | none => fail "TypeError"

/-- What an operator makes of a value and another by which it is updated. What can change is
changed where it is. -/
def update (r : Runner) (op : BinaryOp) (a b : Datum) : Eval Datum := do
  match ← callSpecial? r a ("__i" ++ op.method ++ "__") [b] with
  | some (.atom .notImplemented _) | none => pure ()
  | some result => return result
  match op, a, ← object? a, ← object? b with
  | .add, .object place, some (.list as), _ =>
    replace place (.list (as ++ (← items r b)))
    return a
  | .mul, .object place, some (.list as), _ =>
    match b.int? with
    | some count =>
      replace place (.list (← repeated as count))
      return a
    | none => fail "TypeError"
  | .bitOr, .object place, some (.dict as), some (.dict bs) =>
    replace place (.dict (bs.foldl (fun entries (key, value) => putKey entries key value) as))
    return a
  | op, .object place, some (.set as false), some (.set bs _) =>
    match onSets op as bs with
    | some found =>
      replace place (.set found false)
      return a
    | none => fail "TypeError"
  | _, _, _, _ => binary r op a b

def unary (r : Runner) (op : UnaryOp) (value : Datum) : Eval Datum := do
  let name := match op with
    | .plus => "__pos__"
    | .minus => "__neg__"
    | .invert => "__invert__"
    | .not => "__not__"
  match op, value with
  | .not, value => return .bool !(← truth r value)
  | _, .unknown => return .unknown
  | .plus, .atom (.float _) _ => return value
  | .minus, .atom (.float x) _ => atom (.float (-x))
  | op, .atom a _ =>
    match op, a.int? with
    | .plus, some n => if a matches .int _ then return value else int n
    | .minus, some n => int (-n)
    | .invert, some n => int (-n - 1)
    | _, _ => fail "TypeError"
  | _, value =>
    match ← callSpecial? r value name [] with
    | some result => return result
    | none => fail "TypeError"

/-! ## Indices -/

/-- An index, which must be a whole number. -/
def indexOf (r : Runner) (index : Datum) : Eval Int := do
  match index.int? with
  | some n => return n
  | none =>
    match ← callSpecial? r index "__index__" [] with
    | some result => return result.int?.getD 0
    | none => fail "TypeError"

def boundsOf (r : Runner) (first last step : Datum) : Eval (Option Int × Option Int × Int) := do
  let bound := fun (value : Datum) => do
    if value.isNone then return none else some <$> indexOf r value
  let step ← bound step
  if step = some 0 then fail "ValueError"
  return (← bound first, ← bound last, step.getD 1)

def sliced {α : Type} (items : List α) (bounds : Option Int × Option Int × Int) : List α :=
  let (first, last, step) := bounds
  (slicePlaces items.length first last step).filterMap fun i => items[i]?

def placeIn (r : Runner) (length : Nat) (index : Datum) : Eval Nat := do
  match placeOf? length (← indexOf r index) with
  | some place => return place
  | none => fail "IndexError"

/-- The types of which parts can be named in brackets. -/
def genericTypes : List String := wordsOf [
  "list tuple dict set frozenset type enumerate map filter zip reversed partial"]

/-- What stands at an index. All of a sequence that cannot change is the sequence itself. -/
def itemAt (r : Runner) (value index : Datum) : Eval Datum := do
  let whole := fun (length count : Nat) (step : Int) => length == count && step == 1
  match value, ← object? value, index with
  | .unknown, _, _ => return .unknown
  | .atom (.text value') _, _, .slice a b c =>
    let bounds ← boundsOf r a b c
    let part := sliced value'.toList bounds
    if whole value'.length part.length bounds.2.2 then return value
    text (String.ofList part)
  | .atom (.octets octets) _, _, .slice a b c =>
    let bounds ← boundsOf r a b c
    let part := sliced octets bounds
    if whole octets.length part.length bounds.2.2 then return value
    atom (.octets part)
  | .tuple items _, _, .slice a b c =>
    let bounds ← boundsOf r a b c
    let part := sliced items bounds
    if whole items.length part.length bounds.2.2 then return value
    tuple part
  | _, some (.list items), .slice a b c => do list (sliced items (← boundsOf r a b c))
  | .range first last step, _, .slice a b c =>
    let count := stepCount first last step
    let (from?, to?, by') ← boundsOf r a b c
    let (start, stop) := sliceEnds count from? to? by'
    return .range (first + start * step) (first + stop * step) (step * by')
  | .atom (.text value) _, _, index =>
    match value.toList[← placeIn r value.length index]? with
    | some c => text (String.singleton c)
    | none => fail "IndexError"
  | .atom (.octets octets) _, _, index =>
    return .smallInt (octets[← placeIn r octets.length index]?.getD 0).toNat
  | .tuple items _, _, index => return items[← placeIn r items.length index]?.getD .none
  | _, some (.list items), index => return items[← placeIn r items.length index]?.getD .none
  | .range first last step, _, index =>
    int (first + step * (← placeIn r (stepCount first last step) index : Nat))
  | _, some (.dict entries), key =>
    checkKey key
    match valueOfKey? entries key with
    | some found => return found
    | none => fail "KeyError" [key]
  | .type name, _, _ => if genericTypes.contains name then return .unknown else fail "TypeError"
  | value, some (.type ..), index =>
    match ← definedIn? "__class_getitem__" (← lineageOfType value) with
    | some function =>
      match ← object? function with
      | some (.wrapped _ inner) => r.call inner ⟨[value, index], []⟩
      | _ => r.call function ⟨[value, index], []⟩
    | none => fail "TypeError"
  | value, _, index =>
    match ← callSpecial? r value "__getitem__" [index] with
    | some found => return found
    | none => fail "TypeError"

def spliced {α : Type} (items : List α) (first : Nat) (count : Nat) (others : List α) : List α :=
  items.take first ++ others ++ items.drop (first + count)

def setItem (r : Runner) (object index value : Datum) : Eval Unit := do
  match object, ← object? object, index with
  | .unknown, _, _ => return
  | .object place, some (.list old), .slice a b c =>
    let (first, last, step) ← boundsOf r a b c
    let new ← items r value
    let (start, count) := sliceExtent old.length first last step
    if step = 1 then replace place (.list (spliced old start.toNat count new))
    else if new.length ≠ count then fail "ValueError"
    else
      let places := (steps start step count).map Int.toNat
      replace place (.list ((places.zip new).foldl (fun list (i, item) => list.set i item) old))
  | .object place, some (.list old), index =>
    replace place (.list (old.set (← placeIn r old.length index) value))
  | .object place, some (.dict entries), key =>
    checkKey key
    replace place (.dict (putKey entries key value))
  | object, _, index =>
    match ← callSpecial? r object "__setitem__" [index, value] with
    | some _ => return
    | none => fail "TypeError"

/-- Takes away what stands at an index. -/
def deleteItem (r : Runner) (object index : Datum) : Eval Unit := do
  match object, ← object? object, index with
  | .unknown, _, _ => return
  | .object place, some (.list old), .slice a b c =>
    let (first, last, step) ← boundsOf r a b c
    let places := slicePlaces old.length first last step
    let kept := old.zipIdx.filter fun (_, i) => !places.contains i
    replace place (.list (kept.map (·.1)))
  | .object place, some (.list old), index =>
    replace place (.list (old.eraseIdx (← placeIn r old.length index)))
  | .object place, some (.dict entries), key =>
    checkKey key
    if (valueOfKey? entries key).isNone then fail "KeyError" [key]
    replace place (.dict (entries.filter fun entry => !entry.1.isSameKey key))
  | object, _, index =>
    match ← callSpecial? r object "__delitem__" [index] with
    | some _ => return
    | none => fail "TypeError"

end ToolBindings.Script
