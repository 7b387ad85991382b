import ToolBindings.Script.Braces
import ToolBindings.Script.Call
import ToolBindings.Text.Blank
import ToolBindings.Text.Identifier
import ToolBindings.Text.LowerCase
import ToolBindings.Text.Substitution
/-!
# Methods of the language

What methods of texts, collections and everything else do. A method that is not among those
here gives something of which no more is known.
-/
namespace ToolBindings.Script
open Eval

/-! ## Texts -/

def textOf (value : Datum) : Eval String :=
  match value.text? with
  | some value => return value
  | none => fail "TypeError"

/-- Where a text stands in another. -/
def placesOf (part whole : List Char) : List Nat :=
  (List.range (whole.length + 1)).filter fun i => part.isPrefixOf (whole.drop i)

/-- The parts of a text between separators, at most a number of times. The bound is the length
of the text. -/
def partsBetween (separator : List Char) : Nat → Option Nat → List Char → List (List Char)
  | 0, _, cs => [cs]
  | bound + 1, most, cs =>
    match placesOf separator cs, most with
    | _, some 0 | [], _ => [cs]
    | place :: _, most =>
      cs.take place ::
        partsBetween separator bound (most.map (· - 1)) (cs.drop (place + separator.length))

/-- The words of a text between blanks. -/
def blankParts (cs : List Char) : List (List Char) :=
  (cs.splitBy fun a b => Text.isBlank a == Text.isBlank b).filter fun part =>
    !part.all Text.isBlank

/-- A text without some characters at its ends. -/
def stripped (left right : Bool) (value : String) (argument : Option Datum) :
    Eval String := do
  let drop ← match argument with
    | none => pure Text.isBlank
    | some chars =>
      if chars.isNone then pure Text.isBlank
      else
        let chars := (← textOf chars).toList
        pure chars.contains
  let cs := if left then value.toList.dropWhile drop else value.toList
  let cs := if right then (cs.reverse.dropWhile drop).reverse else cs
  return String.ofList cs

/-- Whether a text has one of some beginnings or ends. -/
def endsWithAny (value : String) (atStart : Bool) (ends : Datum) : Eval Datum := do
  let ends ← match ends with
    | .tuple ends _ => ends.mapM textOf
    | ends => pure [← textOf ends]
  return .bool (ends.any fun part =>
    if atStart then part.toList.isPrefixOf value.toList else part.toList.isSuffixOf value.toList)

def widenedText (r : Runner) (value name : String) (arguments : Arguments) : Eval String := do
  match ← exactly arguments 1 (if name = "zfill" then 1 else 2) with
  | width :: fill =>
    let width := (← indexOf r width).toNat
    let fill ← match fill with
      | [fill] => textOf fill
      | _ => pure " "
    match fill.toList with
    | [c] =>
      let alignment := if name = "ljust" then '<' else if name = "rjust" then '>'
        else if name = "center" then '^' else '='
      let sign := if alignment = '=' then value.toList.take 1 |>.filter "+-".toList.contains else []
      let format : Format := {
        fill := if alignment = '=' then '0' else c, alignment := some alignment, width }
      return format.widened '<' sign (value.toList.drop sign.length)
    | _ => fail "TypeError"
  | [] => return value

/-- Whether all characters of a text are of a kind, and there is one. -/
def allOf (p : Char → Bool) (value : String) : Datum :=
  .bool (value ≠ "" && value.toList.all p)

/-- What a question about the characters of a text comes to; `none` if the name asks none. -/
def askedOf? (value : String) : String → Option Datum
  | "isdigit" => some (allOf Text.isDigit value)
  | "isdecimal" => some (allOf Text.isDecimal value)
  | "isspace" => some (allOf Text.isBlank value)
  | "isalpha" => some (allOf Char.isAlpha value)
  | "isalnum" => some (allOf Char.isAlphanum value)
  | "isascii" => some (.bool (value.toList.all (·.toNat < 0x80)))
  | "isprintable" => some (.bool !(value.toList.any Text.unprintable.covers))
  | "isidentifier" => some (.bool (Text.isIdentifier value.toList))
  | "islower" => some (.bool (value.toList.any Char.isLower && !value.toList.any Char.isUpper))
  | "isupper" => some (.bool (value.toList.any Char.isUpper && !value.toList.any Char.isLower))
  | _ => none

def textMethod (r : Runner) (receiver : Datum) (value name : String) (arguments : Arguments) :
    Eval Datum := do
  let cs := value.toList
  match name, askedOf? value name with
  | _, some answer =>
    let _ ← exactly arguments 0 0
    return answer
  | "upper", _ =>
    let _ ← exactly arguments 0 0
    text (String.ofList (cs.map Text.upperOne))
  | "lower", _ | "casefold", _ =>
    let _ ← exactly arguments 0 0
    text (String.ofList (Text.lowerCase cs))
  | "strip", _ | "lstrip", _ | "rstrip", _ => do
    textOrOneOf [receiver] (← stripped (name ≠ "rstrip") (name ≠ "lstrip") value
      (← exactly arguments 0 1).head?)
  | "ljust", _ | "rjust", _ | "center", _ | "zfill", _ => do
    textOrOneOf [receiver] (← widenedText r value name arguments)
  | "startswith", _ | "endswith", _ =>
    match ← exactly arguments 1 3 with
    | [ends] => endsWithAny value (name = "startswith") ends
    | _ => return .unknown
  | "find", _ | "index", _ | "rfind", _ | "rindex", _ | "count", _ =>
    match ← exactly arguments 1 3 with
    | [part] =>
      let places := placesOf (← textOf part).toList cs
      if name = "count" then return .smallInt places.length
      let found := if name.startsWith "r" then places.getLast? else places.head?
      match found with
      | some place => int place
      | none => if name.endsWith "find" then int (-1) else fail "ValueError"
    | _ => return .unknown
  | "replace", _ =>
    match ← exactly arguments 2 3 with
    | old :: new :: most =>
      let old := (← textOf old).toList
      let new := (← textOf new).toList
      if old = [] then return .unknown
      let most := (most.head?.bind Datum.int?).bind fun n => if n < 0 then none else some n.toNat
      let parts := partsBetween old cs.length most cs
      textOrOneOf (if parts.length = 1 then [receiver] else [])
        (String.ofList (new.intercalate parts))
    | _ => return .unknown
  | "split", _ | "rsplit", _ =>
    checkNames arguments ["sep", "maxsplit"]
    let given := arguments.positional ++ arguments.named.map (·.2)
    let separator := given.headD .none
    let listed := fun (parts : List (List Char)) => do
      list (← parts.mapM fun part => textOrOneOf [receiver] (String.ofList part))
    if separator.isNone then listed (blankParts cs)
    else
      let separator := (← textOf separator).toList
      if separator = [] then fail "ValueError"
      if given.length > 1 then return .unknown
      listed (partsBetween separator cs.length none cs)
  | "join", _ =>
    let found ← items r (← only arguments)
    let parts ← found.mapM textOf
    textOrOneOf (if parts.length = 1 then found else []) (value.intercalate parts)
  | "format", _ =>
    let single := (cs.filter (· = '\x7b')).length = 1 && cs.head? == some '\x7b' &&
      cs.getLast? == some '\x7d'
    let candidates := arguments.positional ++ arguments.named.map (·.2)
    textOrOneOf (if single then candidates else []) (← filledByBraces r value arguments)
  | "encode", _ => do atom (.octets value.toUTF8.toList)
  | "removeprefix", _ | "removesuffix", _ =>
    let part := (← textOf (← only arguments)).toList
    if name = "removeprefix" && part.isPrefixOf cs then
      textOrOneOf [receiver] (String.ofList (cs.drop part.length))
    else if name = "removesuffix" && part.isSuffixOf cs then
      textOrOneOf [receiver] (String.ofList (cs.take (cs.length - part.length)))
    else return receiver
  | "partition", _ =>
    let separator := ← textOf (← only arguments)
    if separator = "" then fail "ValueError"
    match partsBetween separator.toList cs.length (some 1) cs with
    | [before, behind] =>
      tuple [← text (String.ofList before), ← text separator, ← text (String.ofList behind)]
    | _ => tuple [receiver, ← text "", ← text ""]
  | _, _ => return .unknown

/-! ## Collections -/

/-- Sorts items stably, each by its key. -/
def insertSorted (r : Runner) (entry : Datum × Datum) :
    List (Datum × Datum) → Eval (List (Datum × Datum))
  | [] => return [entry]
  | other :: rest => do
    if ← r.holds .lt entry.1 other.1 then return entry :: other :: rest
    return other :: (← insertSorted r entry rest)

/-- The items of a list in order, as the arguments of the call ask for it. -/
def sorted (r : Runner) (arguments : Names) (items : List Datum) : Eval (List Datum) := do
  let key := (arguments.lookup "key").filter (!·.isNone)
  let backwards ← match arguments.lookup "reverse" with
    | some value => truth r value
    | none => pure false
  let entries ← items.mapM fun item => do
    match key with
    | some function => return (← r.call function ⟨[item], []⟩, item)
    | none => return (item, item)
  let entries := if backwards then entries.reverse else entries
  let entries ← entries.foldlM (fun done entry => insertSorted r entry done) []
  let found := entries.map (·.2)
  return if backwards then found.reverse else found

/-- Where an item stands first among some. -/
def indexAmong? (r : Runner) (item : Datum) : List Datum → Eval (Option Nat)
  | [] => return none
  | other :: rest => do
    if ← sameOrEqual r other item then return some 0
    return (← indexAmong? r item rest).map (· + 1)

def listMethod (r : Runner) (place : Nat) (content : List Datum) (name : String)
    (arguments : Arguments) : Eval Datum := do
  match name with
  | "append" =>
    replace place (.list (content ++ [← only arguments]))
    return .none
  | "extend" =>
    replace place (.list (content ++ (← items r (← only arguments))))
    return .none
  | "insert" =>
    match ← exactly arguments 2 2 with
    | [index, item] =>
      let i := (sliceEnd content.length 1 (← indexOf r index)).toNat
      replace place (.list (spliced content i 0 [item]))
      return .none
    | _ => return .none
  | "pop" =>
    let index := ((← exactly arguments 0 1).head?).getD (.smallInt (-1))
    let i ← placeIn r content.length index
    replace place (.list (content.eraseIdx i))
    return content[i]?.getD .none
  | "remove" =>
    match ← indexAmong? r (← only arguments) content with
    | some i =>
      replace place (.list (content.eraseIdx i))
      return .none
    | none => fail "ValueError"
  | "index" =>
    match ← indexAmong? r ((← exactly arguments 1 3).head?.getD .none) content with
    | some i => int i
    | none => fail "ValueError"
  | "count" =>
    let item ← only arguments
    int (← content.filterM fun other => sameOrEqual r other item).length
  | "clear" =>
    let _ ← exactly arguments 0 0
    replace place (.list [])
    return .none
  | "reverse" =>
    let _ ← exactly arguments 0 0
    replace place (.list content.reverse)
    return .none
  | "copy" =>
    let _ ← exactly arguments 0 0
    list content
  | "sort" =>
    checkNames arguments ["key", "reverse"]
    if !arguments.positional.isEmpty then fail "TypeError"
    replace place (.list (← sorted r arguments.named content))
    return .none
  | _ => return .unknown

def entriesOf (r : Runner) (source : Datum) : Eval (List (Datum × Datum)) := do
  match ← object? source with
  | some (.dict entries) => return entries
  | _ =>
    if (← member? r source "keys").isSome && !(source matches .unknown) then
      let keys ← items r (← r.call (← member r source "keys") {})
      return ← keys.mapM fun key => return (key, ← itemAt r source key)
    (← items r source).mapM fun entry => do
      match ← items r entry with
      | [key, value] => return (key, value)
      | _ => fail "ValueError"

def givenEntries (r : Runner) (arguments : Arguments) : Eval (List (Datum × Datum)) := do
  let first ← match arguments.positional with
    | [] => pure []
    | [source] => entriesOf r source
    | _ => fail "TypeError"
  let named ← arguments.named.mapM fun (name, value) => return (← text name, value)
  return first ++ named

def dictMethod (r : Runner) (place : Nat) (entries : List (Datum × Datum)) (name : String)
    (arguments : Arguments) : Eval Datum := do
  match name with
  | "get" | "setdefault" | "pop" =>
    match ← exactly arguments 1 2 with
    | key :: default =>
      checkKey key
      match valueOfKey? entries key, name, default with
      | some value, "pop", _ =>
        replace place (.dict (entries.filter fun entry => !entry.1.isSameKey key))
        return value
      | some value, _, _ => return value
      | none, "pop", [] => fail "KeyError" [key]
      | none, "setdefault", default =>
        replace place (.dict (putKey entries key (default.headD .none)))
        return default.headD .none
      | none, _, default => return default.headD .none
    | _ => return .none
  | "keys" =>
    let _ ← exactly arguments 0 0
    list (entries.map (·.1))
  | "values" =>
    let _ ← exactly arguments 0 0
    list (entries.map (·.2))
  | "items" =>
    let _ ← exactly arguments 0 0
    list (← entries.mapM fun (key, value) => tuple [key, value])
  | "copy" =>
    let _ ← exactly arguments 0 0
    put (.dict entries)
  | "clear" =>
    let _ ← exactly arguments 0 0
    replace place (.dict [])
    return .none
  | "popitem" =>
    let _ ← exactly arguments 0 0
    match entries.getLast? with
    | some (key, value) =>
      replace place (.dict entries.dropLast)
      tuple [key, value]
    | none => fail "KeyError"
  | "update" =>
    let new ← givenEntries r arguments
    for (key, _) in new do checkKey key
    replace place (.dict (new.foldl (fun entries (key, value) => putKey entries key value) entries))
    return .none
  | _ => return .unknown

def setMethod (r : Runner) (place : Nat) (keys : List Datum) (frozen : Bool) (name : String)
    (arguments : Arguments) : Eval Datum := do
  let others := fun (arguments : Arguments) => do
    return (← arguments.positional.mapM (items r)).flatten
  match name with
  | "add" =>
    let key ← only arguments
    checkKey key
    replace place (.set (withoutSameKeys (keys ++ [key])) frozen)
    return .none
  | "discard" | "remove" =>
    let key ← only arguments
    checkKey key
    if name = "remove" && !keys.any key.isSameKey then fail "KeyError" [key]
    replace place (.set (keys.filter fun other => !other.isSameKey key) frozen)
    return .none
  | "pop" =>
    let _ ← exactly arguments 0 0
    match keys with
    | key :: rest =>
      replace place (.set rest frozen)
      return key
    | [] => fail "KeyError"
  | "clear" =>
    let _ ← exactly arguments 0 0
    replace place (.set [] frozen)
    return .none
  | "update" =>
    let new ← others arguments
    for key in new do checkKey key
    replace place (.set (withoutSameKeys (keys ++ new)) frozen)
    return .none
  | "copy" | "union" => newSet (keys ++ (← others arguments)) frozen
  | "intersection" | "difference" =>
    let other ← others arguments
    newSet (keys.filter fun key => other.any key.isSameKey == (name = "intersection")) frozen
  | "issubset" => return .bool (areKeysOf keys (← items r (← only arguments)))
  | "issuperset" => return .bool (areKeysOf (← items r (← only arguments)) keys)
  | "isdisjoint" =>
    let other ← items r (← only arguments)
    return .bool !(keys.any fun key => other.any key.isSameKey)
  | _ => return .unknown

/-! ## Iteration -/

/-- The next item of what gives one after the other; `none` if there is none. -/
def nextItem? (r : Runner) (value : Datum) : Eval (Option Datum) := do
  match value, ← object? value with
  | .object place, some (.iterator content failure) =>
    match content, failure with
    | item :: rest, failure =>
      replace place (.iterator rest failure)
      return some item
    | [], some error =>
      replace place (.iterator [] none)
      raise error
    | [], none => return none
  | .object place, some (.generator ..) | .object place, some (.pending ..) =>
    let (content, failure) ← itemsAndFailure r 100 value
    match content, failure with
    | item :: rest, failure =>
      replace place (.iterator rest failure)
      return some item
    | [], some error => raise error
    | [], none => return none
  | value, _ =>
    match ← special? value "__next__" with
    | some function =>
      match ← caught (r.call function {}) with
      | .ok item => return some item
      | .error error => if ← isOf error "StopIteration" then return none else raise error
    | none => if value matches .unknown then return some .unknown else fail "TypeError"

/-- What gives the items of a value one after the other. -/
def iteratorOf (r : Runner) (value : Datum) : Eval Datum := do
  match ← object? value with
  | some (.iterator ..) | some (.pending ..) => return value
  | some (.generator function _) => if function.async then fail "TypeError" else return value
  | some (.record ..) =>
    match ← callSpecial? r value "__iter__" [] with
    | some result => return result
    | none => fail "TypeError"
  | _ => iterator (← items r value)

/-! ## Everything -/

/-- The methods that compare, which answer that they do not know how. -/
def comparisonMethods : List String := wordsOf [
  "__eq__ __ne__ __lt__ __le__ __gt__ __ge__ __subclasshook__"]

/-- Takes a member of a record away by its name. All members of its own go if the name is that of
what holds them. -/
def removeMember (place : Nat) (type : Datum) (members : Names) (name : String) : Eval Unit := do
  if name = "__dict__" then replace place (.record type [])
  else if name = "__class__" then fail "TypeError"
  else if name ≠ "__weakref__" && (members.lookup name).isSome then
    replace place (.record type (members.remove name))
  else fail "AttributeError"

/-- Checks that a record can be taken to pieces by a protocol of a number. Members of its own that
describe the pieces hinder it. -/
def checkReduction (members : Names) (protocol : Int) : Eval Unit := do
  let bound : Nat := 1 <<< 31
  if protocol < -bound ∨ bound ≤ protocol then fail "OverflowError"
  if (members.lookup "__getstate__").isSome ||
      protocol < 2 && (members.lookup "__slots__").isSome then fail "TypeError"

/-- Calls a method that every record has with one argument. -/
def recordMethod (place : Nat) (type : Datum) (members : Names) (name : String)
    (argument : Datum) : Eval Datum := do
  if ["__eq__", "__ne__"].contains name && argument.isSame (.object place) then
    return .bool (name = "__eq__")
  if comparisonMethods.contains name then return .atom .notImplemented 0
  match name, argument.text?, argument.int? with
  | "__format__", some "", _ => return .unknown
  | "__delattr__", some id, _ =>
    removeMember place type members id
    return .none
  | "__reduce_ex__", _, some protocol =>
    checkReduction members protocol
    return .unknown
  | _, _, _ => fail "TypeError"

def comparisonOf? (name : String) : Option Comparison :=
  [("__eq__", .eq), ("__ne__", .ne), ("__lt__", .lt), ("__le__", .le), ("__gt__", .gt),
    ("__ge__", .ge)].lookup name

def operatorOf? (name : String) : Option BinaryOp :=
  [.add, .sub, .mul, .matMul, .div, .floorDiv, .mod, .pow, .shiftLeft, .shiftRight, .bitAnd,
    .bitOr, .bitXor].find? fun op => "__" ++ op.method ++ "__" = name

/-- A method that has the same meaning for everything that has it; `none` if there is none of
the name. -/
def commonMethod? (r : Runner) (receiver : Datum) (name : String) (arguments : Arguments) :
    Eval (Option Datum) := do
  match name, comparisonOf? name, operatorOf? name with
  | "__call__", _, _ => some <$> r.call receiver arguments
  | "__getitem__", _, _ => some <$> itemAt r receiver (← only arguments)
  | "__setitem__", _, _ =>
    match ← exactly arguments 2 2 with
    | [index, value] => setItem r receiver index value
    | _ => pure ()
    return some .none
  | "__delitem__", _, _ =>
    deleteItem r receiver (← only arguments)
    return some .none
  | "__contains__", _, _ => return some (.bool (← contains r receiver (← only arguments)))
  | "__len__", _, _ =>
    let _ ← exactly arguments 0 0
    return some (.smallInt ((← length? receiver).getD 0))
  | "__bool__", _, _ =>
    let _ ← exactly arguments 0 0
    return some (.bool (← truth r receiver))
  | "__iter__", _, _ =>
    let _ ← exactly arguments 0 0
    some <$> iteratorOf r receiver
  | "__next__", _, _ =>
    let _ ← exactly arguments 0 0
    match ← nextItem? r receiver with
    | some item => return some item
    | none => fail "StopIteration"
  | "__str__", _, _ =>
    let _ ← exactly arguments 0 0
    some <$> (printed r receiver >>= text)
  | "__repr__", _, _ =>
    let _ ← exactly arguments 0 0
    some <$> (r.written true receiver >>= text)
  | "__format__", _, _ => do
    some <$> (formatted r receiver (← textOf (← only arguments)) >>= text)
  | "__getattribute__", _, _ => do
    some <$> member r receiver (← textOf (← only arguments))
  | "__setattr__", _, _ =>
    match ← exactly arguments 2 2 with
    | [name, value] => changeMembers r receiver (← textOf name) fun members =>
        return members.put (← textOf name) value
    | _ => pure ()
    return some .none
  | "__init__", _, _ => return some .none
  | "__hash__", _, _ | "__dir__", _, _ | "__sizeof__", _, _ | "__reduce__", _, _
  | "__getstate__", _, _ =>
    let _ ← exactly arguments 0 0
    return some .unknown
  | "with_traceback", _, _ => return some receiver
  | "add_note", _, _ => return some .none
  | "close", _, _ => return some .none
  | "send", _, _ =>
    match ← nextItem? r receiver with
    | some item => return some item
    | none => fail "StopIteration"
  | _, some op, _ =>
    let other ← only arguments
    match ← caught (r.holds op receiver other) with
    | .ok result => return some (.bool result)
    | .error _ => return some (.atom .notImplemented 0)
  | _, _, some op =>
    let other ← only arguments
    match ← plainBinary? r op receiver other with
    | some result => return some result
    | none => return some (.atom .notImplemented 0)
  | _, _, _ => return none

def callPlainMethod (r : Runner) (receiver : Datum) (name : String) (arguments : Arguments) :
    Eval Datum := do
  match receiver, ← object? receiver, arguments.positional with
  | .object place, some (.record type members), [argument] =>
    if objectMembers.contains name && arguments.named.isEmpty && !(← isError receiver) &&
        name ≠ "__getattribute__" then
      return ← recordMethod place type members name argument
  | _, _, _ => pure ()
  match ← commonMethod? r receiver name arguments with
  | some result => return result
  | none =>
    match receiver, ← object? receiver with
    | .atom (.text value) _, _ => textMethod r receiver value name arguments
    | .object place, some (.list content) => listMethod r place content name arguments
    | .object place, some (.dict entries) => dictMethod r place entries name arguments
    | .object place, some (.set keys frozen) => setMethod r place keys frozen name arguments
    | .tuple content _, _ =>
      if ["index", "count"].contains name then listMethod r 0 content name arguments
      else return .unknown
    | _, _ => return .unknown

/-- Calls a method of a value or, as it is found in a type, with the value as its first
argument. -/
def callMethod (r : Runner) (receiver : Datum) (name : String) (arguments : Arguments) :
    Eval Datum := do
  match receiver, arguments.positional with
  | .unknown, _ => return .unknown
  | .type type, self :: rest =>
    if name = "__new__" then
      if ← isType self then put (.record self []) else fail "TypeError"
    else if ["fromkeys", "from_bytes", "maketrans", "fromhex", "mro"].contains name then
      return .unknown
    else if ← isOf self type then
      callPlainMethod r self name { arguments with positional := rest }
    else if self matches .unknown then return .unknown
    else fail "TypeError"
  | .type _, [] =>
    if ["__init_subclass__", "__subclasshook__", "mro"].contains name then return .none
    fail "TypeError"
  | receiver, _ => callPlainMethod r receiver name arguments

end ToolBindings.Script
