import ToolBindings.Script.Method
import ToolBindings.Text.Radix
/-!
# Functions and types of the language

* `callPrimitive`: what a function of the language does, and those of the library that
  supports tools.
* `construct`: what a type of the language makes of arguments.
-/
namespace ToolBindings.Script
open Eval

/-! ## Support for tools -/

/-- The value of a member that is asked for by a name that may be missing. -/
def memberOrNone? (r : Runner) (value : Datum) (name : String) : Eval (Option Datum) := do
  match ← caught (member? r value name) with
  | .ok found => return found
  | .error error => if ← isOf error "AttributeError" then return none else raise error

/-- Whether an input has no content: nothing, a dictionary without entries, or a message with no
field set (`is_empty_input`). -/
def isEmptyInput (r : Runner) (input : Datum) : Eval Bool := do
  match input, ← object? input with
  | .atom .none _, _ => return true
  | _, some (.dict entries) => return entries.isEmpty
  | input, _ =>
    match ← memberOrNone? r input "ListFields" with
    | none => return false
    | some function =>
      if ← isCallable function then return !(← truth r (← r.call function {}))
      return false

/-- Checks that an implementation has the method of a tool (`require_method`). -/
def requireMethod (r : Runner) (implementation method tool : Datum) : Eval Unit := do
  let found ← memberOrNone? r implementation (← textOf method)
  if !(← isCallable (found.getD .none)) then
    let typeName ← typeName (← typeOf implementation)
    let message := typeName ++ " does not implement " ++ (← printed r method) ++
      " required by tool " ++ (← r.written true tool)
    fail "ToolDefinitionError" [← text message]

/-! ## Numbers from texts -/

/-- The digits of a text whose parts are separated by single underscores; `none` if they are
not. -/
def joinedDigits? (cs : List Char) : Option (List Char) :=
  let parts := partsBetween ['_'] cs.length none cs
  if parts.any List.isEmpty then none else some parts.flatten

/-- The whole number that a text writes in a base. -/
def intOfText? (base : Nat) (value : String) : Option Int := do
  let cs := Text.trimBlank value.toList
  let negative := cs.head? == some '-'
  let cs := if negative || cs.head? == some '+' then cs.tail else cs
  let marks := [('b', 2), ('o', 8), ('x', 16)]
  let (base, cs) := match cs with
    | '0' :: mark :: rest =>
      match marks.lookup mark.toLower with
      | some marked => if base = 0 || base = marked then (marked, rest) else (base, cs)
      | none => (base, cs)
    | cs => (base, cs)
  let base := if base = 0 then 10 else base
  let digits ← joinedDigits? cs
  let n ← if base = 10 then Text.decimalNumber? digits else Text.numberOf? base digits
  return if negative then -(n : Int) else n

/-- The number with a fraction that a text writes. -/
def floatOfText? (value : String) : Option Float := do
  let cs := (Text.trimBlank value.toList).map Char.toLower
  let negative := cs.head? == some '-'
  let cs := if negative || cs.head? == some '+' then cs.tail else cs
  let word := String.ofList cs
  let size ← if ["inf", "infinity"].contains word then some (1.0 / 0.0)
    else if word = "nan" then some (0.0 / 0.0)
    else do
      let mantissa := cs.takeWhile (· ≠ 'e')
      let exponent ← match cs.drop mantissa.length with
        | [] => some 0
        | _ :: rest => intOfText? 10 (String.ofList rest)
      let whole := mantissa.takeWhile (· ≠ '.')
      let fraction := (mantissa.drop whole.length).drop 1
      let digits ← if whole ++ fraction = [] then none
        else do
          let whole ← if whole = [] then some [] else joinedDigits? whole
          let fraction ← if fraction = [] then some [] else joinedDigits? fraction
          Text.decimalNumber? (whole ++ fraction)
      some (floatOf digits (exponent - fraction.length))
  return if negative then -size else size

/-- The text in which a numeral may stand: a text, or octets each of which is a character. -/
def numeralIn? : Datum → Option String
  | .atom (.text value) _ => some value
  | .atom (.octets value) _ =>
    some (String.ofList (value.map fun octet => Char.ofNat octet.toNat))
  | _ => none

def checkFinite (x : Float) : Eval Unit := do
  if x.isNaN then fail "ValueError"
  if x.isInf then fail "OverflowError"

/-! ## Functions -/

/-- Whether a value is of a type, or of one of several. The bound is on how deep lists of types
are in one another. -/
def matchesTypes (test : Datum → Eval Bool) : Nat → Datum → Eval Bool
  | 0, _ => throwThe Halt .exhausted
  | bound + 1, types => do
    match types with
    | .tuple types _ =>
      for type in types do
        if ← matchesTypes test bound type then return true
      return false
    | .unknown => return true
    | type => if ← isType type then test type else fail "TypeError"

/-- The value whose rank is the greatest or the least. -/
def extreme (r : Runner) (op : Comparison) : Datum × Datum → List (Datum × Datum) → Eval Datum
  | best, [] => return best.2
  | best, item :: rest => do
    if ← r.holds op item.1 best.1 then extreme r op item rest else extreme r op best rest

/-- A number rounded to a place, to the even one of two that are as near. -/
def rounded (value : Datum) (places : Option Datum) : Eval Datum := do
  match value, places.filter (!·.isNone) with
  | .unknown, _ => return .unknown
  | .atom (.float x) _, none =>
    checkFinite x
    let n : Int := roundedAt (fractionOf x) 0
    int (if x < 0 then -n else n)
  | .atom (.float _) _, some places =>
    if places.int?.isSome then return .unknown else fail "TypeError"
  | .atom (.int _) _, none => return value
  | .atom a _, none =>
    match a.int? with
    | some n => int n
    | none => fail "TypeError"
  | .atom a _, some places =>
    if a.int?.isSome && places.int?.isSome then return .unknown else fail "TypeError"
  | _, _ => fail "TypeError"

/-- Calls a function of the language that deals with members and types. -/
def callReflection? (r : Runner) (name : String) (arguments : Arguments) :
    Eval (Option Datum) := do
  match name with
  | "getattr" =>
    match ← exactly arguments 2 3 with
    | [value, id] => some <$> member r value (← textOf id)
    | [value, id, default] => return (← memberOrNone? r value (← textOf id)).getD default
    | _ => return none
  | "hasattr" =>
    match ← exactly arguments 2 2 with
    | [value, id] => return some (.bool (← memberOrNone? r value (← textOf id)).isSome)
    | _ => return none
  | "setattr" =>
    match ← exactly arguments 3 3 with
    | [object, id, value] => setMember r object (← textOf id) value
    | _ => pure ()
    return some .none
  | "delattr" =>
    match ← exactly arguments 2 2 with
    | [object, id] => deleteMember r object (← textOf id)
    | _ => pure ()
    return some .none
  | "isinstance" =>
    match ← exactly arguments 2 2 with
    | [value, types] =>
      if value matches .unknown then return some (.bool true)
      return some (.bool (← matchesTypes (isOfType value) 100 types))
    | _ => return none
  | "issubclass" =>
    match ← exactly arguments 2 2 with
    | [type, types] =>
      if type matches .unknown then return some (.bool true)
      if !(← isType type) then fail "TypeError"
      let lineage ← lineageOfType type
      return some (.bool (← matchesTypes (fun other => return lineage.any other.isSame) 100 types))
    | _ => return none
  | "__import__" =>
    match arguments.positional.head?.bind Datum.text? with
    | some path => return some (← loadLibrary (path.splitOn ".")).2
    | none => fail "TypeError"
  | "callable" => return some (.bool (← isCallable (← only arguments)))
  | "id" | "hash" =>
    let value ← only arguments
    if name = "hash" then checkKey value
    return some .unknown
  | "vars" =>
    match ← member? r (← only arguments) "__dict__" with
    | some members => return some members
    | none => fail "TypeError"
  | "dir" | "globals" | "locals" => return some .unknown
  | "is_empty_input" => return some (.bool (← isEmptyInput r (← only arguments)))
  | "require_method" =>
    match ← exactly arguments 3 3 with
    | [implementation, method, tool] => requireMethod r implementation method tool
    | _ => pure ()
    return some .none
  | "ToolName" => some <$> only arguments
  | _ => return none

/-- Calls a function of the language that deals with items. -/
def callOnItems? (r : Runner) (name : String) (arguments : Arguments) :
    Eval (Option Datum) := do
  match name with
  | "len" =>
    let value ← only arguments
    match value, ← length? value with
    | .unknown, _ => return some .unknown
    | _, some n => some <$> int n
    | value, none =>
      match ← callSpecial? r value "__len__" [] with
      | some n => if n.int?.isSome then return some n else fail "TypeError"
      | none => fail "TypeError"
  | "all" => return some (.bool (← (← items r (← only arguments)).allM (truth r)))
  | "any" => return some (.bool (← (← items r (← only arguments)).anyM (truth r)))
  | "iter" =>
    match ← exactly arguments 1 2 with
    | [value] => some <$> iteratorOf r value
    | _ => return some .unknown
  | "next" =>
    match ← exactly arguments 1 2 with
    | value :: default =>
      match ← nextItem? r value, default with
      | some item, _ => return some item
      | none, [default] => return some default
      | none, _ => fail "StopIteration"
    | _ => return none
  | "max" | "min" =>
    checkNames arguments ["key", "default"]
    let values ← match arguments.positional with
      | [] => fail "TypeError"
      | [value] => items r value
      | values => pure values
    let key := (arguments.named.lookup "key").filter (!·.isNone)
    let ranked ← values.mapM fun value => match key with
      | some function => return (← r.call function ⟨[value], []⟩, value)
      | none => return (value, value)
    match ranked, arguments.named.lookup "default" with
    | first :: rest, _ => some <$> extreme r (if name = "max" then .gt else .lt) first rest
    | [], some default => return some default
    | [], none => fail "ValueError"
  | "sorted" =>
    checkNames arguments ["key", "reverse"]
    match arguments.positional with
    | [value] => do some <$> list (← sorted r arguments.named (← items r value))
    | _ => fail "TypeError"
  | "sum" =>
    checkNames arguments ["start"]
    match arguments.positional ++ arguments.named.map (·.2) with
    | [value] => some <$> (← items r value).foldlM (binary r .add) (.smallInt 0)
    | [value, start] =>
      if start.text?.isSome then fail "TypeError"
      some <$> (← items r value).foldlM (binary r .add) start
    | _ => fail "TypeError"
  | _ => return none

/-- Calls a function of the language that deals with numbers and texts. -/
def callOnAtoms? (r : Runner) (name : String) (arguments : Arguments) :
    Eval (Option Datum) := do
  match name with
  | "abs" =>
    let value ← only arguments
    match value with
    | .unknown => return some .unknown
    | .atom (.float x) _ => some <$> atom (.float x.abs)
    | .atom a _ =>
      match a.int? with
      | some n => if n ≥ 0 && a matches .int _ then return some value else some <$> int n.natAbs
      | none => fail "TypeError"
    | value =>
      match ← callSpecial? r value "__abs__" [] with
      | some result => return some result
      | none => fail "TypeError"
  | "repr" | "ascii" => do some <$> text (← r.written true (← only arguments))
  | "bin" | "oct" | "hex" =>
    let n ← indexOf r (← only arguments)
    let type := if name = "bin" then 'b' else if name = "oct" then 'o' else 'x'
    some <$> (orFail (formattedInt { type := some type, alternate := true } n) >>= text)
  | "chr" =>
    let n ← indexOf r (← only arguments)
    if n < 0 ∨ 0x110000 ≤ n then fail "ValueError"
    some <$> text (String.singleton (Char.ofNat n.toNat))
  | "ord" =>
    match ← only arguments with
    | .atom (.text value) _ =>
      match value.toList with
      | [c] => some <$> int c.toNat
      | _ => fail "TypeError"
    | .atom (.octets [octet]) _ => return some (.smallInt octet.toNat)
    | .unknown => return some .unknown
    | _ => fail "TypeError"
  | "divmod" =>
    match ← exactly arguments 2 2 with
    | [a, b] => do some <$> tuple [← binary r .floorDiv a b, ← binary r .mod a b]
    | _ => return none
  | "pow" =>
    checkNames arguments ["base", "exp", "mod"]
    match arguments.positional ++ arguments.named.map (·.2) with
    | [a, b] => some <$> binary r .pow a b
    | [a, b, modulus] =>
      match a.int?, b.int?, modulus.int? with
      | some _, some _, some m => if m = 0 then fail "ValueError" else return some .unknown
      | _, _, _ => if modulus.isNone then some <$> binary r .pow a b else fail "TypeError"
    | _ => fail "TypeError"
  | "round" =>
    checkNames arguments ["number", "ndigits"]
    match arguments.positional ++ arguments.named.map (·.2) with
    | [value] => some <$> rounded value none
    | [value, places] => some <$> rounded value (some places)
    | _ => fail "TypeError"
  | "format" =>
    match ← exactly arguments 1 2 with
    | value :: format => do
      let format ← textOf (← match format with
        | [format] => pure format
        | _ => text "")
      some <$> (formatted r value format >>= textOrOneOf [value])
    | _ => return none
  | "print" =>
    checkNames arguments ["sep", "end", "file", "flush"]
    for value in arguments.positional do let _ ← printed r value
    return some .none
  | _ => return none

def callPrimitive (r : Runner) (name : String) (arguments : Arguments) : Eval Datum := do
  for attempt in [callReflection?, callOnItems?, callOnAtoms?] do
    if let some result ← attempt r name arguments then return result
  match name with
  | "exit" | "quit" => fail "SystemExit"
  | "open" =>
    let mode := (arguments.positional[1]? <|> arguments.named.lookup "mode").bind Datum.text?
    if arguments.positional.isEmpty && arguments.named.isEmpty then fail "TypeError"
    if (mode.getD "r").startsWith "r" then fail "FileNotFoundError" else return .unknown
  | "aiter" | "anext" => fail "TypeError"
  | "compile" =>
    if arguments.positional.length + arguments.named.length < 3 then fail "TypeError"
    return .unknown
  | _ => return .unknown

/-! ## Types -/

/-- The values of arguments that may be given by some names, in the order of these. -/
def namedArguments (arguments : Arguments) (names : List String) : Eval (List (Option Datum)) := do
  let (bound, left) := bindPositional names arguments.positional
  checkNames arguments names
  if !left.isEmpty || arguments.named.any (fun (name, _) => (bound.lookup name).isSome) then
    fail "TypeError"
  return names.map fun name => (bound ++ arguments.named).lookup name

/-- A whole number made of arguments. -/
def constructInt (r : Runner) (arguments : Arguments) : Eval Datum := do
  if !arguments.named.all fun (name, _) => name = "base" then fail "TypeError"
  match arguments.positional, arguments.named.lookup "base" <|> arguments.positional[1]? with
  | [], none => return .smallInt 0
  | value :: _, some base =>
    match value.text?, base.int? with
    | some value, some base =>
      if base < 0 ∨ base = 1 ∨ 36 < base then fail "ValueError"
      match intOfText? base.toNat value with
      | some n => int n
      | none => fail "ValueError"
    | _, _ => fail "TypeError"
  | [value], none =>
    match value with
    | .unknown => return .unknown
    | .atom (.float x) _ =>
      checkFinite x
      int (truncated x)
    | .atom (.text _) _ | .atom (.octets _) _ =>
      match (numeralIn? value).bind (intOfText? 10) with
      | some n => int n
      | none => fail "ValueError"
    | .atom (.int _) _ => return value
    | .atom (.bool b) _ => return .smallInt b.toInt
    | value =>
      for name in ["__int__", "__index__"] do
        if let some result ← callSpecial? r value name [] then return result
      fail "TypeError"
  | _, _ => fail "TypeError"

/-- A number with a fraction made of a value. -/
def constructFloat (r : Runner) (value : Option Datum) : Eval Datum := do
  match value, value.bind numeralIn? with
  | none, _ => atom (.float 0)
  | some .unknown, _ => return .unknown
  | _, some numeral =>
    match floatOfText? numeral with
    | some x => atom (.float x)
    | none => fail "ValueError"
  | some (.atom a mark), _ =>
    match a, a.float? with
    | .float _, _ => return .atom a mark
    | _, some x => atom (.float x)
    | _, none => fail "TypeError"
  | some value, _ =>
    match ← callSpecial? r value "__float__" [] with
    | some result => return result
    | none => fail "TypeError"

def constructOctets (r : Runner) (arguments : Arguments) : Eval Datum := do
  match ← namedArguments arguments ["source", "encoding", "errors"] with
  | [none, none, none] => atom (.octets [])
  | some (.atom (.text value) _) :: some _ :: _ => atom (.octets value.toUTF8.toList)
  | [some value, none, none] =>
    match value, value.int? with
    | .unknown, _ => return .unknown
    | .atom (.octets _) _, _ => return value
    | .atom (.text _) _, _ => fail "TypeError"
    | _, some n =>
      if n < 0 then fail "ValueError"
      atom (.octets (← repeated [0] n))
    | value, none =>
      let octets ← (← items r value).mapM fun item => do
        match item.int? with
        | some n => if n < 0 ∨ 255 < n then fail "ValueError" else return UInt8.ofNat n.toNat
        | none => fail "TypeError"
      atom (.octets octets)
  | _ => fail "TypeError"

def constructRange (r : Runner) (arguments : Arguments) : Eval Datum := do
  match ← (← exactly arguments 1 3).mapM (indexOf r) with
  | [last] => return .range 0 last 1
  | [first, last] => return .range first last 1
  | [first, last, step] => if step = 0 then fail "ValueError" else return .range first last step
  | _ => fail "TypeError"

/-- A type from its name, the types that it extends and its members. -/
def newType (name : String) (bases : List Datum) (members : Names) : Eval Datum := do
  for base in bases do
    if base matches .unknown then continue
    if !(← isType base) then fail "TypeError"
    if ["bool", "range", "slice", "NoneType", "function", "memoryview"].any
        fun name => base.isSame (.type name) then fail "TypeError"
  if (withoutEarlier Datum.isSame bases).length ≠ bases.length then fail "TypeError"
  put (.type name (if bases.isEmpty then [.type "object"] else bases) members)

/-- What is made only when it is gone through. -/
def constructPending (r : Runner) (type : String) (arguments : Arguments) : Eval Datum := do
  match type with
  | "zip" =>
    checkNames arguments ["strict"]
    put (.pending type (← arguments.positional.mapM (iteratorOf r)))
  | "enumerate" =>
    match ← namedArguments arguments ["iterable", "start"] with
    | [some value, start] => put (.pending type [start.getD (.smallInt 0), ← iteratorOf r value])
    | _ => fail "TypeError"
  | "reversed" =>
    match ← exactly arguments 1 1 with
    | [value] =>
      let ordered ← ["list", "tuple", "str", "bytes", "range", "dict"].anyM (isOf value)
      if !ordered && !(value matches .unknown) then
        match ← callSpecial? r value "__reversed__" [] with
        | some result => return result
        | none => fail "TypeError"
      put (.pending type [.none, ← list (← items r value)])
    | _ => fail "TypeError"
  | _ =>
    match ← exactly arguments 2 (if type = "filter" then 2 else 100) with
    | function :: parts => put (.pending type (function :: (← parts.mapM (iteratorOf r))))
    | _ => fail "TypeError"

def constructError (type : String) (arguments : Arguments) : Eval Datum := do
  if !arguments.named.all fun (name, _) => ["name", "path", "obj"].contains name then
    fail "TypeError"
  let arguments := arguments.positional
  newError (.type (errorTypeFor type arguments)) arguments

/-- The value that a type makes of arguments that is known without being loaded. -/
def constructPlain (r : Runner) (type : String) (arguments : Arguments) : Eval Datum := do
  let collected := fun (make : List Datum → Eval Datum) => do
    match ← exactly arguments 0 1 with
    | [value] => do make (← items r value)
    | _ => make []
  match type with
  | "object" =>
    let _ ← exactly arguments 0 0
    put (.record (.type type) [])
  | "bool" =>
    match ← exactly arguments 0 1 with
    | [value] => return .bool (← truth r value)
    | _ => return .bool false
  | "int" => constructInt r arguments
  | "float" => constructFloat r (← exactly arguments 0 1).head?
  | "str" =>
    match ← namedArguments arguments ["object", "encoding", "errors"] with
    | none :: _ => text ""
    | [some value, none, none] =>
      if value.text?.isSome then return value else printed r value >>= text
    | some (.atom (.octets _) _) :: _ => return .unknown
    | _ => fail "TypeError"
  | "bytes" => constructOctets r arguments
  | "bytearray" =>
    let _ ← constructOctets r arguments
    return .unknown
  | "memoryview" =>
    match ← only arguments with
    | .atom (.octets _) _ | .unknown => return .unknown
    | _ => fail "TypeError"
  | "complex" =>
    for value in ← namedArguments arguments ["real", "imag"] do
      match value with
      | some (.atom a _) =>
        if a.float?.isNone && (Datum.atom a 0).text?.isNone then fail "TypeError"
        if let .text value := a then if (floatOfText? value).isNone then fail "ValueError"
      | none | some .unknown => continue
      | some _ => fail "TypeError"
    return .unknown
  | "super" =>
    match ← exactly arguments 0 2 with
    | [] => fail "RuntimeError"
    | type :: _ => if ← isType type then return .unknown else fail "TypeError"
  | "list" => collected list
  | "tuple" =>
    match arguments.positional with
    | [.tuple parts mark] => return .tuple parts mark
    | _ => collected tuple
  | "set" => collected fun found => newSet found false
  | "frozenset" => collected fun found => newSet found true
  | "dict" => givenEntries r arguments >>= newDict
  | "range" => constructRange r arguments
  | "slice" =>
    match ← exactly arguments 1 3 with
    | [last] => return .slice .none last .none
    | [first, last] => return .slice first last .none
    | [first, last, step] => return .slice first last step
    | _ => fail "TypeError"
  | "type" =>
    match ← exactly arguments 1 3 with
    | [value] => typeOf value
    | [name, .tuple bases _, members] =>
      let entries ← entriesOf r members
      newType (← textOf name) bases (entries.filterMap fun (key, value) =>
        key.text?.map (·, value))
    | _ => fail "TypeError"
  | "property" => put (.wrapped .property ((← exactly arguments 0 4).headD .none))
  | "staticmethod" => do put (.wrapped .static (← only arguments))
  | "classmethod" => do put (.wrapped .ofType (← only arguments))
  | "zip" | "map" | "filter" | "enumerate" | "reversed" => constructPending r type arguments
  | "NoneType" | "ellipsis" | "NotImplementedType" =>
    let _ ← exactly arguments 0 0
    match type with
    | "NoneType" => return .none
    | "ellipsis" => return .atom .ellipsis 0
    | _ => return .atom .notImplemented 0
  | "function" | "method" | "module" | "generator" | "coroutine" | "iterator" => fail "TypeError"
  | _ => return .unknown

/-- The value that a type of the language makes of arguments. -/
def construct (r : Runner) (type : String) (arguments : Arguments) : Eval Datum := do
  match type with
  | "partial" =>
    match arguments.positional with
    | function :: rest =>
      if ← isCallable function then put (.applied function { arguments with positional := rest })
      else fail "TypeError"
    | [] => fail "TypeError"
  | "Tool" => newTool (.type type) arguments
  | "Any" => fail "TypeError"
  | type =>
    if errorTypes.contains type then constructError type arguments
    else constructPlain r type arguments

end ToolBindings.Script
