import ToolBindings.Entries
import ToolBindings.Literal.Basic
import ToolBindings.Octets
/-!
# Values and their literals

Values in general, of which some cannot be written as a literal: those of types that have
none, and integers with too many digits. `Value.toLiteral` finds the first such part in
reading order.
-/
namespace ToolBindings

/-- A key of a dictionary. -/
inductive Key where
  | null
  | bool (value : Bool)
  | int (value : Int)
  | text (value : String)
deriving Repr

namespace Key

/-- The integer that a key counts as: true is one and false is zero. -/
def number? : Key → Option Int
  | bool true => some 1
  | bool false => some 0
  | int value => some value
  | null | text _ => none

/-- Keys are the same if they are equal as numbers or equal as texts. -/
instance : BEq Key where
  beq
    | null, null => true
    | text a, text b => a == b
    | a, b => a.number?.isSome && a.number? == b.number?

def name : Key → String
  | null => "None"
  | bool true => "True"
  | bool false => "False"
  | int value => String.ofList (Text.integerNumeral value)
  | text value => value

end Key

/-- A value of a type that has no literal. -/
inductive Foreign where
  | float (numeral : String)
  | octets (value : Octets)
  /-- Something of any other type, given by its name. -/
  | thing (type : String)
deriving Repr

def Foreign.typeName : Foreign → String
  | float _ => "float"
  | octets _ => "bytes"
  | thing type => type

/-- A value. -/
inductive Value where
  | null
  | bool (value : Bool)
  | int (value : Int)
  | text (value : String)
  | other (value : Foreign)
  | list (items : List Value)
  | tuple (items : List Value)
  | dict (entries : List (Key × Value))
deriving Repr, Inhabited

/-- What keeps a value from having a literal. -/
inductive Unwritable where
  /-- A value of a type that has none. -/
  | type (name : String)
  /-- An integer with more digits than are converted. -/
  | digits
deriving DecidableEq, Repr

/-- The message of the error; only the one about a type is this library's own. -/
def Unwritable.message? : Unwritable → Option String
  | type name => some ("cannot render " ++ name ++ " as a literal")
  | digits => none

/-- Whether an integer is converted to decimal digits (`repr`). -/
def isConverted (value : Int) : Bool := value.natAbs < Text.decimalLimit Text.maxDecimalDigits

/-- A key as a text (`str`). -/
def Key.toText : Key → Except Unwritable String
  | .int value => if isConverted value then .ok (Key.int value).name else .error .digits
  | key => .ok key.name

namespace Value

mutual

/-- The literal of a value (`render_literal`). A tuple is written as a list, and a key as its
text. -/
def toLiteral : Value → Except Unwritable Literal
  | null => .ok .null
  | bool value => .ok (.bool value)
  | int value => if isConverted value then .ok (.int value) else .error .digits
  | text value => .ok (.text value)
  | other value => .error (.type value.typeName)
  | list items => (toLiterals items).map .list
  | tuple items => (toLiterals items).map .list
  | dict entries => (toEntries entries).map .dict

def toLiterals : List Value → Except Unwritable (List Literal)
  | [] => .ok []
  | item :: rest => do return (← toLiteral item) :: (← toLiterals rest)

def toEntries : List (Key × Value) → Except Unwritable (List (String × Literal))
  | [] => .ok []
  | (key, value) :: rest => do
    let key ← key.toText
    return (key, ← toLiteral value) :: (← toEntries rest)

end

end Value

end ToolBindings
