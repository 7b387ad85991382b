import ToolBindings.Script.Tree
/-!
# Values of scripts

A value that cannot change is given by its content, one that can by its place in the store.

Two values with the same content need not be one: `Datum.isSame` tells whether they are.
Of some contents, such as small numbers, there is only one value. Others have a mark, which
differs for values that came about in different ways; mark zero is that of a value that
stands in a script. There is one text of each single character, but for some letters the
text that stands in a script is a second one.
-/
namespace ToolBindings.Script

/-- A value without parts. -/
inductive Atom where
  | none
  | notImplemented
  | ellipsis
  | bool (value : Bool)
  | int (value : Int)
  | float (value : Float)
  | text (value : String)
  | octets (value : Octets)
deriving BEq, Inhabited

inductive Datum where
  | atom (value : Atom) (mark : Nat)
  | tuple (items : List Datum) (mark : Nat)
  | range (first last step : Int)
  | slice (first last step : Datum)
  /-- A function that belongs to the language. -/
  | primitive (name : String)
  /-- A type that belongs to the language. -/
  | type (name : String)
  /-- A method that belongs to the language, of a value. -/
  | method (receiver : Datum) (name : String)
  /-- A function together with its first argument. -/
  | bound (receiver function : Datum)
  /-- What is at a place of the store. -/
  | object (place : Nat)
  /-- Something of which no more is known. Whatever is done with it gives the like. -/
  | unknown
deriving Inhabited

structure Arguments where
  positional : List Datum := []
  named : List (String × Datum) := []

/-- What a name stands for: values by name. -/
abbrev Names := List (String × Datum)

/-- A function that a script defines. -/
structure Function where
  name : String
  parameters : Parameters Expr
  /-- The values of parameters that need not be given. -/
  defaults : Names
  body : List Statement
  async : Bool
  /-- Whether it yields values when it is gone through. -/
  yields : Bool
  /-- The names that it binds. -/
  own : List String
  /-- The names that belong to the script though they are bound here. -/
  globals : List String
  /-- The frames of the functions around it, the innermost first. -/
  outer : List Nat

/-- What wraps a function that is a member of a type. -/
inductive Wrapping where
  | static | ofType | property
deriving DecidableEq

/-- What is at a place of the store. -/
inductive Object where
  | list (items : List Datum)
  | dict (entries : List (Datum × Datum))
  | set (items : List Datum) (frozen : Bool)
  /-- The names of a scope, and the values of those that have one. -/
  | frame (own : List String) (values : Names)
  | function (function : Function) (members : Names)
  /-- A type that a script defines. -/
  | type (name : String) (bases : List Datum) (members : Names)
  /-- Something of a type, with members of its own. -/
  | record (type : Datum) (members : Names)
  | library (path : String) (members : Names)
  /-- Items that are still to come, and the error behind them. -/
  | iterator (items : List Datum) (failure : Option Datum)
  /-- A function whose body is run when it is gone through. -/
  | generator (function : Function) (frame : Nat)
  /-- What is made of items only when it is gone through, by a type of the language. -/
  | pending (type : String) (arguments : List Datum)
  /-- A function some of whose arguments are there already. -/
  | applied (function : Datum) (arguments : Arguments)
  | wrapped (wrapping : Wrapping) (function : Datum)

namespace Atom

/-- Whether there is only one value with this content. -/
def isUnique : Atom → Bool
  | none | notImplemented | ellipsis | bool _ => true
  | int value => -5 ≤ value && value ≤ 256
  | float _ => false
  | text value => value.length ≤ 1 && value.toList.all (·.toNat < 0x100)
  | octets value => value.length ≤ 1

/-- The letters of which there are two texts. -/
def doubledLetters : List Char := "BCLST_abcdefhijklmnopqrstvwxy".toList

/-- Whether an atom is a text of which there is one in scripts and one elsewhere. -/
def isDoubled : Atom → Bool
  | text value =>
    match value.toList with
    | [c] => doubledLetters.contains c
    | _ => false
  | _ => false

/-- The whole number that an atom is. Truth values are one and zero. -/
def int? : Atom → Option Int
  | bool value => some value.toInt
  | int value => some value
  | _ => Option.none

def float? : Atom → Option Float
  | float value => some value
  | a => a.int?.map Float.ofInt

/-- Whether two atoms are equal. Numbers of different types can be. -/
def equals (a b : Atom) : Bool :=
  match a.int?, b.int? with
  | some m, some n => m == n
  | _, _ =>
    match a.float?, b.float? with
    | some x, some y => x == y
    | _, _ => a == b

end Atom

namespace Datum

def none : Datum := .atom .none 0
def bool (value : Bool) : Datum := .atom (.bool value) 0

/-- A small number, of which there is only one. -/
def smallInt (value : Int) : Datum := .atom (.int value) 0

mutual

/-- Whether two values are one. -/
def isSame : Datum → Datum → Bool
  | atom a m, atom b n =>
    m == n && m ≠ 0 || a == b && (m == n || a.isUnique && !(a.isDoubled && (m == 0 || n == 0)))
  | tuple as m, tuple bs n =>
    as.isEmpty && bs.isEmpty || m == n && (m ≠ 0 || areSame as bs)
  | primitive a, primitive b => a == b
  | type a, type b => a == b
  | object a, object b => a == b
  | _, _ => false

def areSame : List Datum → List Datum → Bool
  | [], [] => true
  | a :: as, b :: bs => a.isSame b && areSame as bs
  | _, _ => false

end

/-- A value that stands in a script if its parts do. -/
def asWritten : Datum → Datum
  | atom a _ => atom a 0
  | value => value

mutual

def isSameKey : Datum → Datum → Bool
  | atom a _, atom b _ => a.equals b
  | tuple as _, tuple bs _ => areSameKeys as bs
  | range a b c, range d e f => a == d && b == e && c == f
  | a, b => a.isSame b

def areSameKeys : List Datum → List Datum → Bool
  | [], [] => true
  | a :: as, b :: bs => a.isSameKey b && areSameKeys as bs
  | _, _ => false

end

def int? : Datum → Option Int
  | atom a _ => a.int?
  | _ => Option.none

def text? : Datum → Option String
  | atom (.text value) _ => some value
  | _ => Option.none

def isNone : Datum → Bool
  | atom .none _ => true
  | _ => false

end Datum

/-- Sets the value of a name, at its place if it has one. -/
def Names.put (names : Names) (name : String) (value : Datum) : Names :=
  if names.any (·.1 == name) then
    names.map fun entry => if entry.1 == name then (name, value) else entry
  else names ++ [(name, value)]

def Names.remove (names : Names) (name : String) : Names := names.filter (·.1 ≠ name)

end ToolBindings.Script
