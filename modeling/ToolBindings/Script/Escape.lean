import ToolBindings.Text.CharacterName
/-!
# Escapes in texts

`unescaped?` reads the body of a text literal in which a backslash has a meaning. A
backslash in front of anything that it has no meaning for stands for itself.
-/
namespace ToolBindings.Script
open Text (characterNamed? hexNumber isDigitOf numberOf?)

/-- The characters that a backslash and one character stand for. A line end is left out. -/
def shortEscape? (c : Char) : Option (List Char) :=
  [('\n', []), ('\\', ['\\']), ('\x27', ['\x27']), ('"', ['"']), ('a', ['\x07']), ('b', ['\x08']),
    ('f', ['\x0c']), ('n', ['\n']), ('r', ['\r']), ('t', ['\t']), ('v', ['\x0b'])].lookup c

/-- The character with a code. A surrogate, which is no character, is read as U+FFFD. -/
def charOfCode (code : Nat) : Char := if code.isValidChar then Char.ofNat code else '\ufffd'

/-- The character that hexadecimal digits of a fixed number write, and their number with the
letter in front of them. -/
def hexEscape? (width : Nat) (cs : List Char) : Option (List Char × Nat) :=
  let digits := cs.take width
  let code := hexNumber digits
  if digits.length = width ∧ digits.all (isDigitOf 16) ∧ code ≤ 0x10FFFF then
    some ([charOfCode code], width + 1)
  else none

/-- The character whose name stands in braces. -/
def namedEscape? : List Char → Option (List Char × Nat)
  | '\x7b' :: cs =>
    let name := cs.takeWhile (· ≠ '\x7d')
    if name.length < cs.length then
      (characterNamed? name).map fun c => ([c], name.length + 3)
    else none
  | _ => none

/-- What a backslash stands for together with some of the characters behind it, and how many
those are; `none` if they are malformed. Octets have no code points and no names, and an octet
has eight bits. -/
def escapeAt? (octets : Bool) (cs : List Char) : Option (List Char × Nat) :=
  match cs with
  | [] => some (['\\'], 0)
  | c :: rest =>
    match shortEscape? c with
    | some chars => some (chars, 1)
    | none =>
      let octal := (cs.take 3).takeWhile (isDigitOf 8)
      if octal ≠ [] then
        let code := (numberOf? 8 octal).getD 0
        some ([charOfCode (if octets then code % 0x100 else code)], octal.length)
      else if c = 'x' then hexEscape? 2 rest
      else if octets then some (['\\'], 0)
      else if c = 'u' then hexEscape? 4 rest
      else if c = 'U' then hexEscape? 8 rest
      else if c = 'N' then namedEscape? rest
      else some (['\\'], 0)

/-- The characters that the body of a text literal stands for; `none` if an escape is
malformed. -/
def unescaped? (octets : Bool) : List Char → Option (List Char)
  | [] => some []
  | c :: rest =>
    if c = '\\' then
      match escapeAt? octets rest with
      | some (chars, size) => (unescaped? octets (rest.drop size)).map (chars ++ ·)
      | none => none
    else (unescaped? octets rest).map (c :: ·)
termination_by cs => cs.length
decreasing_by
  · simp only [List.length_drop, List.length_cons]; omega
  · simp

end ToolBindings.Script
