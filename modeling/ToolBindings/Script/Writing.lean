import ToolBindings.Script.FloatText
import ToolBindings.Script.Member
import ToolBindings.Text.Digit
import ToolBindings.Text.Quoted
/-!
# Values as texts

* `writtenValue`: a value as a script writes it, or as it is printed.
* `formatted`: a value laid out as a format says.
* `filledByPercent`: a text with values put in where it marks a place.
-/
namespace ToolBindings.Script
open Eval
open Text (decimalDigits hexDigits integerNumeral quoted quotedChar enclosingQuote)

/-! ## Writing -/

def writtenOctet (quote : Char) (octet : UInt8) : List Char :=
  let c := Char.ofNat octet.toNat
  if octet < 0x7F then quotedChar quote c else '\\' :: 'x' :: hexDigits 2 octet.toNat

def writtenOctets (octets : Octets) : String :=
  let quote := enclosingQuote (octets.map fun octet => Char.ofNat octet.toNat)
  String.ofList ('b' :: quote :: octets.flatMap (writtenOctet quote) ++ [quote])

def Atom.written (asScript : Bool) : Atom → String
  | none => "None"
  | notImplemented => "NotImplemented"
  | ellipsis => "Ellipsis"
  | bool true => "True"
  | bool false => "False"
  | int value => String.ofList (integerNumeral value)
  | float value => floatText value
  | text value => if asScript then quoted value else value
  | octets value => writtenOctets value

def between (left : String) (items : List String) (right : String) : String :=
  left ++ ", ".intercalate items ++ right

/-- What a method made that has to make a text. -/
def asText (value : Datum) : Eval String :=
  match value.text? with
  | some value => return value
  | none => fail "TypeError"

/-- An error, written or printed. An error about a key shows it as it is written. -/
def writtenError (r : Runner) (asScript : Bool) (type : Datum) (members : Names) :
    Eval String := do
  let arguments := match members.lookup "args" with
    | some (.tuple items _) => items
    | _ => []
  if asScript then
    return between ((← typeName type) ++ "(") (← arguments.mapM (r.written true)) ")"
  match arguments with
  | [] => return ""
  | [item] =>
    r.written ((← lineageOfType type).any (Datum.isSame (.type "KeyError"))) item
  | items => return between "(" (← items.mapM (r.written true)) ")"

/-- A value as a script writes it, or as it is printed. What has no such form is named by
its type. -/
def writtenValue (r : Runner) (asScript : Bool) (value : Datum) : Eval String := do
  let items := fun (values : List Datum) => values.mapM (r.written true)
  match value, ← object? value with
  | .atom a _, _ => return a.written asScript
  | .tuple [item] _, _ => return "(" ++ (← r.written true item) ++ ",)"
  | .tuple values _, _ => return between "(" (← items values) ")"
  | .range first last step, _ =>
    let step := if step = 1 then [] else [step]
    return between "range(" ((first :: last :: step).map fun n =>
      String.ofList (integerNumeral n)) ")"
  | .slice first last step, _ => return between "slice(" (← items [first, last, step]) ")"
  | _, some (.list values) => return between "[" (← items values) "]"
  | _, some (.dict entries) =>
    let entries ← entries.mapM fun (key, value) => do
      return (← r.written true key) ++ ": " ++ (← r.written true value)
    return between "\x7b" entries "\x7d"
  | _, some (.set [] frozen) => return if frozen then "frozenset()" else "set()"
  | _, some (.set values frozen) =>
    let text := between "\x7b" (← items values) "\x7d"
    return if frozen then "frozenset(" ++ text ++ ")" else text
  | _, some (.record type members) =>
    let special ← if asScript then pure none else special? value "__str__"
    match special <|> (← special? value "__repr__") with
    | some function => asText (← r.call function {})
    | none =>
      if ← isError value then writtenError r asScript type members
      else return "<" ++ (← typeName type) ++ " object>"
  | value, _ =>
    if ← isType value then return "<class " ++ quoted (← typeName value) ++ ">"
    return "<" ++ (← typeName (← typeOf value)) ++ ">"

def printed (r : Runner) (value : Datum) : Eval String := r.written false value

/-! ## Laying out -/

/-- How a value is laid out. -/
structure Format where
  fill : Char := ' '
  alignment : Option Char := none
  sign : Option Char := none
  /-- The form that shows the base of a number. -/
  alternate : Bool := false
  width : Nat := 0
  /-- What stands between groups of digits. -/
  grouping : Option Char := none
  precision : Option Nat := none
  type : Option Char := none

/-- The first character if it is one of some, and the characters behind it. -/
def takeOneOf (chars : String) : List Char → Option Char × List Char
  | c :: rest => if chars.toList.contains c then (some c, rest) else (none, c :: rest)
  | [] => (none, [])

/-- The number that leading digits write, and the characters behind it. -/
def takeNumber (cs : List Char) : Option Nat × List Char :=
  (Text.decimalNumber? (cs.takeWhile Char.isDigit), cs.dropWhile Char.isDigit)

/-- The fill and the alignment with which a format begins, and the characters behind it. -/
def takeAlignment (cs : List Char) : Option Char × Option Char × List Char :=
  match cs with
  | c :: a :: rest =>
    if "<>=^".toList.contains a then (some c, some a, rest)
    else
      let (alignment, rest) := takeOneOf "<>=^" cs
      (none, alignment, rest)
  | cs =>
    let (alignment, rest) := takeOneOf "<>=^" cs
    (none, alignment, rest)

def Format.ofText? (text : String) : Option Format := do
  let (fill, alignment, cs) := takeAlignment text.toList
  let (sign, cs) := takeOneOf "+- " cs
  let (_, cs) := takeOneOf "z" cs
  let (alternate, cs) := takeOneOf "#" cs
  let (zero, cs) := takeOneOf "0" cs
  let (width, cs) := takeNumber cs
  let (grouping, cs) := takeOneOf ",_" cs
  let (point, cs) := takeOneOf "." cs
  let (precision, cs) := if point.isSome then takeNumber cs else (none, cs)
  if point.isSome && precision.isNone then none
  let format : Format := {
    fill := fill.getD (if zero.isSome then '0' else ' ')
    alignment := alignment <|> (if zero.isSome then some '=' else none)
    sign, alternate := alternate.isSome, width := width.getD 0, grouping, precision }
  match cs with
  | [] => some format
  | [c] => some { format with type := some c }
  | _ => none

/-- A text with a sign in front, widened to the width of a format. -/
def Format.widened (format : Format) (standard : Char) (sign body : List Char) : String :=
  let missing := format.width - (sign.length + body.length)
  let fill := fun count => List.replicate count format.fill
  String.ofList (match format.alignment.getD standard with
    | '<' => sign ++ body ++ fill missing
    | '^' => fill (missing / 2) ++ sign ++ body ++ fill (missing - missing / 2)
    | '=' => sign ++ fill missing ++ body
    | _ => fill missing ++ sign ++ body)

def Format.signOf (format : Format) (negative : Bool) : List Char :=
  if negative then ['-'] else (format.sign.filter (· ≠ '-')).toList

def grouped (separator : Char) (size : Nat) : List Char → List Char :=
  let rec go : Nat → List Char → List Char
    | _, [] => []
    | n, c :: rest => if n = size then separator :: c :: go 1 rest else c :: go (n + 1) rest
  fun digits => (go 0 digits.reverse).reverse

def formattedText (format : Format) (value : String) : Except String String :=
  let fits := format.type.all (· = 's') && format.sign.isNone && !format.alternate &&
    format.grouping.isNone && !(format.alignment = some '=' && format.fill ≠ '0')
  if !fits then .error "ValueError"
  else
    let body := value.toList
    let body := (format.precision.map body.take).getD body
    let format :=
      if format.alignment = some '=' then { format with alignment := some '<' } else format
    .ok (format.widened '<' [] body)

/-- A finite number without its sign, laid out. -/
def floatBody (x : Float) (format : Format) (type : Char) : List Char :=
  let precision := format.precision.getD 6
  let body := match type.toLower with
    | 'f' => fixedText x precision
    | 'e' => scientificText x precision
    | '%' => fixedText (x * 100) precision ++ ['%']
    | _ => generalText x precision
  if type.isUpper then body.map Char.toUpper else body

def formattedFloat (format : Format) (x : Float) : Except String String :=
  let negative := x.toBits.toNat ≥ 1 <<< 63 && !x.isNaN
  let type := format.type.getD ' '
  if !"eEfFgGn% ".toList.contains type then .error "ValueError"
  else
    let body :=
      if x.isNaN then "nan".toList
      else if x.isInf then "inf".toList
      else if format.type.isNone && format.precision.isNone then (floatText x.abs).toList
      else floatBody x.abs format type
    let whole := body.takeWhile Char.isDigit
    let body := match format.grouping with
      | some separator => grouped separator 3 whole ++ body.drop whole.length
      | none => body
    .ok (format.widened '>' (format.signOf negative) body)

def digitsIn (base : Nat) (n : Nat) : List Char := Nat.toDigits base n

def formattedInt (format : Format) (n : Int) : Except String String :=
  let type := format.type.getD 'd'
  if "eEfFgG%".toList.contains type then formattedFloat format (Float.ofInt n)
  else if format.precision.isSome || !"bcdoxXn".toList.contains type then .error "ValueError"
  else if type = 'c' then
    if format.sign.isSome then .error "ValueError"
    else if n < 0 ∨ 0x110000 ≤ n then .error "OverflowError"
    else .ok (format.widened '<' [] [Char.ofNat n.toNat])
  else if format.grouping = some ',' && !"dn".toList.contains type then .error "ValueError"
  else
    let base := if type = 'b' then 2 else if type = 'o' then 8
      else if type = 'x' || type = 'X' then 16 else 10
    let digits := digitsIn base n.natAbs
    let digits := if type = 'X' then digits.map Char.toUpper else digits
    let digits := match format.grouping with
      | some separator => grouped separator (if base = 10 then 3 else 4) digits
      | none => digits
    let sign := format.signOf (n < 0)
    let sign := if format.alternate && base ≠ 10 then sign ++ ['0', type] else sign
    .ok (format.widened '>' sign digits)

/-- The result of a function of the language that can end with an error. -/
def orFail {α : Type} : Except String α → Eval α
  | .ok result => return result
  | .error type => fail type

def formatted (r : Runner) (value : Datum) (format : String) : Eval String := do
  match value with
  | .unknown => return ""
  | _ =>
    if let some function ← special? value "__format__" then
      return ← asText (← r.call function ⟨[← text format], []⟩)
    if format = "" then return ← printed r value
    let plain := match value with
      | .atom (.bool _) _ | .atom (.int _) _ | .atom (.float _) _ | .atom (.text _) _ => true
      | _ => false
    if !plain then fail "TypeError"
    match Format.ofText? format, value with
    | some layout, .atom (.text value) _ => orFail (formattedText layout value)
    | some layout, .atom (.float x) _ => orFail (formattedFloat layout x)
    | some layout, value => orFail (formattedInt layout (value.int?.getD 0))
    | none, _ => fail "ValueError"

/-- A value in the form that a letter asks for. -/
def converted (r : Runner) (value : Datum) : Option Char → Eval Datum
  | none => return value
  | some 's' => do if value.text?.isSome then return value else text (← printed r value)
  | some _ => do text (← r.written true value)

/-! ## Filling in -/

/-- Values that are put into a text one after the other, or by their names. -/
structure Supply where
  items : List Datum
  /-- What the names are looked up in. -/
  named : Option Datum
  /-- A single value counts as several if it can be looked up in. -/
  lenient : Bool

/-- One value laid out for a letter behind a percent sign. -/
def percentText (r : Runner) (value : Datum) (letter : Char) (format : Format) :
    Eval String := do
  let number := match value with
    | .atom a _ => a.float?
    | _ => none
  if value matches .unknown then return ""
  if "sra".toList.contains letter then
    let body ← r.written (letter ≠ 's') value
    orFail (formattedText { format with alignment := format.alignment <|> some '>' } body)
  else if letter = 'c' then
    match value.text?, value.int? with
    | some body, _ =>
      if body.length = 1 then orFail (formattedText format body) else fail "TypeError"
    | none, some n => orFail (formattedInt { format with type := some 'c' } n)
    | none, none => fail "TypeError"
  else if "diuoxX".toList.contains letter then
    let decimal := "diu".toList.contains letter
    match value.int?, number with
    | some n, _ =>
      let type := if decimal then 'd' else letter
      orFail (formattedInt { format with type := some type, precision := none } n)
    | none, some x =>
      if !decimal then fail "TypeError"
      if x.isNaN then fail "ValueError"
      if x.isInf then fail "OverflowError"
      orFail (formattedInt { format with type := some 'd', precision := none } (truncated x))
    | none, none => fail "TypeError"
  else
    match number with
    | some x => orFail (formattedFloat { format with type := some letter } x)
    | none => fail "TypeError"

def Supply.take (supply : Supply) : Eval (Datum × Supply) :=
  match supply.items with
  | item :: rest => return (item, { supply with items := rest })
  | [] => fail "TypeError"

/-- A number that a format gives itself or takes from the supply, and what is left of both. -/
def takeSize (supply : Supply) (cs : List Char) : Eval (Option Nat × List Char × Supply) := do
  match cs with
  | '*' :: rest =>
    let (item, supply) ← supply.take
    match item.int? with
    | some n => return (some n.toNat, rest, supply)
    | none => fail "TypeError"
  | cs =>
    let (size, rest) := takeNumber cs
    return (size, rest, supply)

/-- A text with values put in for what begins with a percent sign. The bound is the length of
the text. -/
def percentRest (r : Runner) : Nat → Supply → List Char → Eval String
  | 0, _, _ => return ""
  | bound + 1, supply, cs => do
    let plain := String.ofList (cs.takeWhile (· ≠ '%'))
    match cs.dropWhile (· ≠ '%') with
    | [] =>
      if supply.items ≠ [] && !supply.lenient then fail "TypeError"
      return plain
    | _ :: cs =>
      let (key, cs) ← match cs with
        | '(' :: rest =>
          let key := rest.takeWhile (· ≠ ')')
          if key.length = rest.length then fail "ValueError"
          pure (some (String.ofList key), rest.drop (key.length + 1))
        | cs => pure (none, cs)
      let supply ← match key, supply.named with
        | none, _ => pure supply
        | some _, none => fail "TypeError"
        | some key, some holder =>
          pure { supply with
            items := [← r.call (← member r holder "__getitem__") ⟨[← text key], []⟩] }
      let flags := cs.takeWhile "-+ #0".toList.contains
      let (width, cs, supply) ← takeSize supply (cs.drop flags.length)
      let (precision, cs, supply) ← match cs with
        | '.' :: rest => do
          let (size, rest, supply) ← takeSize supply rest
          pure (some (size.getD 0), rest, supply)
        | cs => pure (none, cs, supply)
      let cs := (takeOneOf "hlL" cs).2
      match cs with
      | [] => fail "ValueError"
      | '%' :: rest => return plain ++ "%" ++ (← percentRest r bound supply rest)
      | letter :: rest =>
        let (item, supply) ← supply.take
        if !"sracdiuoxXeEfFgG".toList.contains letter then fail "ValueError"
        let format : Format := {
          alignment := if flags.contains '-' then some '<'
            else if flags.contains '0' then some '=' else none
          fill := if flags.contains '0' && !flags.contains '-' then '0' else ' '
          sign := if flags.contains '+' then some '+'
            else if flags.contains ' ' then some ' ' else none
          alternate := flags.contains '#', width := width.getD 0, precision }
        let format := if "srac".toList.contains letter then
          { format with fill := ' ', sign := none, alternate := false } else format
        let format := if format.alignment = some '=' && "srac".toList.contains letter then
          { format with alignment := none } else format
        return plain ++ (← percentText r item letter format) ++ (← percentRest r bound supply rest)

/-- A text with a value or several put in for what begins with a percent sign. -/
def filledByPercent (r : Runner) (pattern : String) (value : Datum) : Eval String := do
  let supply : Supply ← match value with
    | .tuple items _ => pure ⟨items, none, false⟩
    | value =>
      let plain := value.text?.isSome || (← isType value)
      let found ← if plain then pure none else member? r value "__getitem__"
      pure ⟨[value], found.map fun _ => value, found.isSome⟩
  percentRest r (pattern.length + 1) supply pattern.toList

end ToolBindings.Script
