import ToolBindings.Script.Operation
/-!
# Texts with fields in braces

`filledByBraces` puts values into a text where it has fields. A field names an argument by its
number or its name, or is the next one, and may lead on to members and items; behind it stand
a letter for a conversion and a format, which can have fields itself.
-/
namespace ToolBindings.Script
open Eval

/-- How the fields of a text have been numbered so far. -/
inductive Numbering where
  | open
  | counted (next : Nat)
  | explicit

/-- The characters of a field and those behind it. The depth counts braces that are open. -/
def takeBraced : Nat → List Char → Option (List Char × List Char)
  | _, [] => none
  | depth, '\x7d' :: rest =>
    match depth with
    | 0 => some ([], rest)
    | depth + 1 => (takeBraced depth rest).map fun (body, rest) => ('\x7d' :: body, rest)
  | depth, '\x7b' :: rest =>
    (takeBraced (depth + 1) rest).map fun (body, rest) => ('\x7b' :: body, rest)
  | depth, c :: rest => (takeBraced depth rest).map fun (body, rest) => (c :: body, rest)

/-- The name of a field, the letter of its conversion and its format. -/
def fieldParts (body : List Char) : Eval (List Char × Option Char × List Char) := do
  let name := body.takeWhile fun c => c ≠ '!' && c ≠ ':'
  match body.drop name.length with
  | [] => return (name, none, [])
  | ':' :: format => return (name, none, format)
  | _ :: letter :: rest =>
    if !"rsa".toList.contains letter then fail "ValueError"
    match rest with
    | [] => return (name, some letter, [])
    | ':' :: format => return (name, some letter, format)
    | _ => fail "ValueError"
  | _ => fail "ValueError"

/-- Follows a path of members and items from a value. The bound is the length of the path. -/
def followPath (r : Runner) : Nat → Datum → List Char → Eval Datum
  | 0, value, _ | _, value, [] => return value
  | bound + 1, value, '.' :: rest => do
    let name := rest.takeWhile fun c => c ≠ '.' && c ≠ '['
    if name = [] then fail "ValueError"
    followPath r bound (← member r value (String.ofList name)) (rest.drop name.length)
  | bound + 1, value, '[' :: rest => do
    let key := rest.takeWhile (· ≠ ']')
    if key = [] || key.length = rest.length then fail "ValueError"
    let index ← match Text.decimalNumber? key with
      | some n => int n
      | none => text (String.ofList key)
    followPath r bound (← itemAt r value index) (rest.drop (key.length + 1))
  | _ + 1, _, _ => fail "ValueError"

def fieldArgument (arguments : Arguments) (numbering : Numbering) (name : List Char) :
    Eval (Datum × Numbering) := do
  let number := Text.decimalNumber? name
  let at' := fun (i : Nat) (numbering : Numbering) => do
    match arguments.positional[i]? with
    | some value => return (value, numbering)
    | none => fail "IndexError"
  match name, number, numbering with
  | [], _, .open => at' 0 (.counted 1)
  | [], _, .counted i => at' i (.counted (i + 1))
  | [], _, .explicit | _ :: _, some _, .counted _ => fail "ValueError"
  | _ :: _, some i, _ => at' i .explicit
  | name, none, numbering =>
    match arguments.named.lookup (String.ofList name) with
    | some value => return (value, numbering)
    | none => fail "KeyError" [← text (String.ofList name)]

/-- A text with its fields filled in, given how deep fields may be inside others and a bound
on the number of steps. -/
def bracesRest (r : Runner) (arguments : Arguments) :
    Nat → Nat → Numbering → List Char → Eval (String × Numbering)
  | _, 0, numbering, _ => return ("", numbering)
  | depth, bound + 1, numbering, cs => do
    let isPlain := fun c => c ≠ '\x7b' && c ≠ '\x7d'
    let plain := String.ofList (cs.takeWhile isPlain)
    let following := fun (start : String) (numbering : Numbering) (rest : List Char) => do
      let (text, numbering) ← bracesRest r arguments depth bound numbering rest
      return (plain ++ start ++ text, numbering)
    match cs.dropWhile isPlain with
    | [] => return (plain, numbering)
    | '\x7b' :: '\x7b' :: rest => following "\x7b" numbering rest
    | '\x7d' :: '\x7d' :: rest => following "\x7d" numbering rest
    | '\x7b' :: rest =>
      match takeBraced 0 rest, depth with
      | none, _ | _, 0 => fail "ValueError"
      | some (body, rest), depth + 1 =>
        let (name, conversion, format) ← fieldParts body
        let first := name.takeWhile fun c => c ≠ '.' && c ≠ '['
        let (value, numbering) ← fieldArgument arguments numbering first
        let value ← followPath r name.length value (name.drop first.length)
        let value ← converted r value conversion
        let (format, numbering) ← bracesRest r arguments depth bound numbering format
        following (← formatted r value format) numbering rest
    | _ => fail "ValueError"

/-- A text with arguments put in for its fields. -/
def filledByBraces (r : Runner) (pattern : String) (arguments : Arguments) : Eval String := do
  return (← bracesRest r arguments 2 (pattern.length + 1) .open pattern.toList).1

end ToolBindings.Script
