import ToolBindings.Wire.Layout
/-!
# The messages inside a request

A request holds much that the generator does not read: options, comments with their
positions, enumerations, extensions. All of it has to be well formed nevertheless, so
here is what kinds of messages there are and where each kind lies.
-/
namespace ToolBindings
open Wire

/-- The kinds of messages in a request. -/
inductive MessageKind where
  | request | file | messageType | field | alternatives | extensionRange
  | enumeration | enumerationValue | service | method
  | fileOptions | messageOptions | fieldOptions | alternativesOptions | extensionRangeOptions
  | enumerationOptions | enumerationValueOptions | serviceOptions | methodOptions
  /-- An option that the compiler could not interpret. -/
  | rawOption
  /-- Where the elements of a file stand in its text, with the comments on them. -/
  | positions
  | position
  /-- A message that holds neither messages nor lists of integers. -/
  | plain
deriving DecidableEq, Repr

namespace MessageKind

/-- The number of the options that the compiler could not interpret, among any options. -/
def rawOptionNumber : Nat := 999

/-- What options hold: further options in records of some numbers, and raw ones. -/
def optionFields (numbers : List Nat) : List (Nat × Content MessageKind) :=
  (rawOptionNumber, .message rawOption) :: numbers.map fun number => (number, .message plain)

/-- The fields of a message that hold messages or lists of integers. -/
def fields : MessageKind → List (Nat × Content MessageKind)
  | request => [(3, .message plain), (15, .message file), (17, .message file)]
  | file => [
    (4, .message messageType), (5, .message enumeration), (6, .message service),
    (7, .message field), (8, .message fileOptions), (9, .message positions), (10, .integers),
    (11, .integers)]
  | messageType => [
    (2, .message field), (3, .message messageType), (4, .message enumeration),
    (5, .message extensionRange), (6, .message field), (7, .message messageOptions),
    (8, .message alternatives), (9, .message plain)]
  | field => [(8, .message fieldOptions)]
  | alternatives => [(2, .message alternativesOptions)]
  | extensionRange => [(3, .message extensionRangeOptions)]
  | enumeration => [
    (2, .message enumerationValue), (3, .message enumerationOptions), (4, .message plain)]
  | enumerationValue => [(3, .message enumerationValueOptions)]
  | service => [(2, .message method), (3, .message serviceOptions)]
  | method => [(4, .message methodOptions)]
  | fileOptions => optionFields [50]
  | messageOptions => optionFields [12]
  | fieldOptions => (19, .integers) :: optionFields [20, 21, 22]
  | alternativesOptions => optionFields [1]
  | extensionRangeOptions => optionFields [2, 50]
  | enumerationOptions => optionFields [7]
  | enumerationValueOptions => optionFields [2, 4]
  | serviceOptions => optionFields [34]
  | methodOptions => optionFields [35]
  | rawOption => [(2, .message plain)]
  | positions => [(1, .message position)]
  | position => [(1, .integers), (2, .integers)]
  | plain => []

def layout : Layout MessageKind := fun kind number => kind.fields.lookup number

/-- Whether octets are a message of one kind, as the outermost message. -/
def accepts (kind : MessageKind) (octets : Octets) : Bool := conforms layout maxNesting kind octets

end MessageKind

end ToolBindings
