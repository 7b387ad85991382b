import ToolBindings.Text.Decimal
/-!
# Literals

The values that a generated module can contain, and how they are written.

* Text stands between double quotes on one line; quotes, backslashes and control
  characters are escaped, everything else stands for itself.
* A list is written on one line. A dictionary has one entry a line, indented by one
  more step than the line on which it begins, and a comma behind every entry.
-/
namespace ToolBindings

/-- A value that a generated module can contain. -/
inductive Literal where
  | null
  | bool (value : Bool)
  | int (value : Int)
  | text (value : String)
  | list (items : List Literal)
  | dict (entries : List (String × Literal))
deriving Repr, Inhabited, BEq

namespace Literal
open Text

/-- One character inside double quotes. -/
def escaped (c : Char) : List Char :=
  if c = '"' then ['\\', '"']
  else if c = '\\' then ['\\', '\\']
  else if c = '\n' then ['\\', 'n']
  else if c = '\r' then ['\\', 'r']
  else if c = '\t' then ['\\', 't']
  else if c = '\x08' then ['\\', 'b']
  else if c = '\x0c' then ['\\', 'f']
  else if c.toNat < 0x20 then '\\' :: 'u' :: hexDigits 4 c.toNat
  else [c]

/-- A text between double quotes. -/
def quotedText (text : List Char) : List Char := '"' :: text.flatMap escaped ++ ['"']

/-- The space in front of a line: four blanks for each level, none below level zero. -/
def indentation (level : Int) : List Char := List.replicate (4 * level.toNat) ' '

mutual

/-- How many brackets are open at once at the innermost part of a literal. -/
def depth : Literal → Nat
  | null | bool _ | int _ | text _ => 0
  | list items => depthOfItems items + 1
  | dict entries => depthOfEntries entries + 1

def depthOfItems : List Literal → Nat
  | [] => 0
  | item :: rest => max (depth item) (depthOfItems rest)

def depthOfEntries : List (String × Literal) → Nat
  | [] => 0
  | (_, value) :: rest => max (depth value) (depthOfEntries rest)

end

mutual

/-- A literal that begins on a line of the given level. -/
def written (level : Int) : Literal → List Char
  | null => "None".toList
  | bool true => "True".toList
  | bool false => "False".toList
  | int value => integerNumeral value
  | text value => quotedText value.toList
  | list items => '[' :: writtenItems level items ++ [']']
  | dict [] => ['\x7b', '\x7d']
  | dict (entry :: entries) =>
    '\x7b' :: '\n' :: writtenEntry (level + 1) entry ++ writtenEntries (level + 1) entries ++
      indentation level ++ ['\x7d']

/-- The items of a list, separated by a comma and a blank. -/
def writtenItems (level : Int) : List Literal → List Char
  | [] => []
  | [item] => written level item
  | item :: next :: rest => written level item ++ ',' :: ' ' :: writtenItems level (next :: rest)

/-- The line or lines of one entry of a dictionary. -/
def writtenEntry (level : Int) : String × Literal → List Char
  | (key, value) =>
    indentation level ++ quotedText key.toList ++ ':' :: ' ' :: written level value ++ [',', '\n']

def writtenEntries (level : Int) : List (String × Literal) → List Char
  | [] => []
  | entry :: rest => writtenEntry level entry ++ writtenEntries level rest

end

/-- The text of a literal that begins on a line of the given level. -/
def render (level : Int) (literal : Literal) : String := String.ofList (written level literal)

def renderText (value : String) : String := String.ofList (quotedText value.toList)

end Literal

end ToolBindings
