import ToolBindings.Text.CharacterName.Aliases
import ToolBindings.Text.CharacterName.From0020
import ToolBindings.Text.CharacterName.From102A0
import ToolBindings.Text.CharacterName.From1D00
import ToolBindings.Text.CharacterName.From1D7CE
import ToolBindings.Text.CharacterName.From2B76
import ToolBindings.Text.CodeRanges
import ToolBindings.Text.Normalization
/-!
# Characters by name

`characterNamed?` finds the character that has a name in Unicode 14.0. Most names are in
tables, and of those it does not matter whether they are in capital letters. The names of
Hangul syllables and of unified ideographs follow rules and are in capital letters.
-/
namespace ToolBindings.Text

/-! ## Names in tables -/

/-- Successive characters that have names: the first character, and the lines of the names.
Every name begins with a mark, which is how many characters it shares with the name before
it; what it does not share follows. -/
abbrev NameBlock := Nat × List String

/-- How many characters a mark stands for: a is none, b is one and so on to z, and then from
à on. Names contain no marks. -/
def sharedOf? (c : Char) : Option Nat :=
  if c.isLower then some (c.toNat - 'a'.toNat)
  else if 'à' ≤ c then some (c.toNat - 'à'.toNat + 26)
  else none

/-- What stands before the first mark of a line, and then each mark with what follows it. -/
def markedParts : List Char → List Char × List (Nat × List Char)
  | [] => ([], [])
  | c :: rest =>
    let (part, parts) := markedParts rest
    match sharedOf? c with
    | some shared => ([], (shared, part) :: parts)
    | none => (c :: part, parts)

/-- The place of a name among names of which each may share its beginning with the one before
it. -/
def placeOf? (name : List Char) (before : List Char) : List (Nat × List Char) → Option Nat
  | [] => none
  | (shared, part) :: rest =>
    let current := before.take shared ++ part
    if current = name then some 0 else (placeOf? name current rest).map (· + 1)

def NameBlock.find? (name : List Char) (block : NameBlock) : Option Char :=
  (placeOf? name [] (block.2.flatMap fun line => (markedParts line.toList).2)).map fun place =>
    Char.ofNat (block.1 + place)

/-- The ranges of characters whose names end with their code point. -/
def codedNames : List (String × Nat × Nat) := [
  ("CJK COMPATIBILITY IDEOGRAPH-", 0xF900, 0xFA6D),
  ("CJK COMPATIBILITY IDEOGRAPH-", 0xFA70, 0xFAD9),
  ("KHITAN SMALL SCRIPT CHARACTER-", 0x18B00, 0x18CD5), ("NUSHU CHARACTER-", 0x1B170, 0x1B2FB),
  ("CJK COMPATIBILITY IDEOGRAPH-", 0x2F800, 0x2FA1D)]

def behind? (beginning : String) (text : List Char) : Option (List Char) :=
  if beginning.toList.isPrefixOf text then some (text.drop beginning.length) else none

/-- The character between two that is written with four or five hexadecimal digits, without
a zero in front. -/
def codedChar? (first last : Nat) (digits : List Char) : Option Char :=
  let code := hexNumber digits
  if (digits.length = 4 ∨ digits.length = 5) ∧ digits.head? ≠ some '0' ∧
      digits.all (isDigitOf 16) ∧ first ≤ code ∧ code ≤ last then
    some (Char.ofNat code)
  else none

/-- The variation selectors: how they are numbered, and before which character. -/
def selectorChar? (number : Nat) : Option Char :=
  if 1 ≤ number ∧ number ≤ 16 then some (Char.ofNat (0xFDFF + number))
  else if 17 ≤ number ∧ number ≤ 256 then some (Char.ofNat (0xE00EF + number))
  else none

/-- The character that has a name of a table, which is in capital letters. -/
def tabledChar? (name : List Char) : Option Char :=
  (codedNames.findSome? fun (beginning, first, last) =>
      (behind? beginning name).bind (codedChar? first last)).or <|
  (((behind? "VS" name).filter (·.head? ≠ some '0')).bind (numberOf? 10) |>.bind
      selectorChar?).or <|
  ((characterAliases.find? (·.2.toList = name)).map fun entry => Char.ofNat entry.1).or <|
  [characterNamesFrom0020, characterNamesFrom1D00, characterNamesFrom2B76,
    characterNamesFrom102A0, characterNamesFrom1D7CE].findSome? fun blocks =>
      blocks.findSome? (NameBlock.find? name)

/-! ## Names that follow rules -/

/-- The leading consonants of Hangul syllables in their order. -/
def leadingNames : List String := [
  "G", "GG", "N", "D", "DD", "R", "M", "B", "BB", "S", "SS", "", "J", "JJ", "C", "K", "T", "P", "H"]

/-- The vowels of Hangul syllables in their order. -/
def vowelNames : List String := [
  "A", "AE", "YA", "YAE", "EO", "E", "YEO", "YE", "O", "WA", "WAE", "OE", "YO", "U", "WEO", "WE",
  "WI", "YU", "EU", "YI", "I"]

/-- What a Hangul syllable can end with, nothing first. -/
def trailingNames : List String := [
  "", "G", "GG", "GS", "N", "NJ", "NH", "D", "L", "LG", "LM", "LB", "LS", "LT", "LP", "LH", "M",
  "B", "BS", "S", "SS", "NG", "J", "C", "K", "T", "P", "H"]

/-- The Hangul syllable that is spelled by the names of its parts. -/
def spelledSyllable? (spelling : List Char) : Option Char :=
  leadingNames.zipIdx.findSome? fun (leading, l) =>
    (behind? leading spelling).bind fun rest =>
      vowelNames.zipIdx.findSome? fun (vowel, v) =>
        (behind? vowel rest).bind fun rest =>
          (trailingNames.idxOf? (String.ofList rest)).map fun t =>
            Char.ofNat (syllableBase + (l * vowelCount + v) * trailingCount + t)

def unifiedIdeographs : CodeRanges := [
  (0x3400, 0x4DBF), (0x4E00, 0x9FFF), (0x20000, 0x2A6DF), (0x2A700, 0x2B738), (0x2B740, 0x2B81D),
  (0x2B820, 0x2CEA1), (0x2CEB0, 0x2EBE0), (0x30000, 0x3134A)]

/-- The unified ideograph that is written with four or five digits, which are capital letters
where they are letters. -/
def unifiedIdeograph? (digits : List Char) : Option Char :=
  let char := Char.ofNat (hexNumber digits)
  if (digits.length = 4 ∨ digits.length = 5) ∧
      digits.all (fun c => isDigitOf 16 c && !c.isLower) ∧ unifiedIdeographs.covers char then
    some char
  else none

def characterNamed? (name : List Char) : Option Char :=
  match behind? "HANGUL SYLLABLE " name, behind? "CJK UNIFIED IDEOGRAPH-" name with
  | some spelling, _ => spelledSyllable? spelling
  | none, some digits => unifiedIdeograph? digits
  | none, none => tabledChar? (name.map Char.toUpper)

end ToolBindings.Text
