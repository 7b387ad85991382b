import ToolBindings.Text.Normalization.Table
import ToolBindings.Text.Radix
import ToolBindings.Text.Split
/-!
# Compatibility normalization

Two spellings of an identifier name the same thing if `normalized` maps them to the same
text. It takes characters apart, puts the combining marks behind each character in the
order of their classes, and composes again what has a composed form (the form NFKC).

* `decomposed` and `composed` are the two directions; Hangul syllables follow a rule, all
  other characters the tables.
* `ordered` sorts each run of combining marks and keeps the order of marks of one class.
-/
namespace ToolBindings.Text

/-- Successive characters, each with a sequence of characters. -/
structure CharRun where
  /-- The code point of the first one. -/
  first : Nat
  /-- What belongs to the first one, the next one and so on. -/
  items : List (List Char)

/-- The characters of an item of a table: code points joined by plus signs. -/
def itemChars (item : List Char) : List Char :=
  (splitOn '+' item).map fun digits => Char.ofNat (hexNumber digits)

def CharRun.ofSegment (segment : List Char) : CharRun :=
  match cutFirst? ':' segment with
  | some (first, items) => ⟨hexNumber first, (splitOn ' ' items).map itemChars⟩
  | none => ⟨0, []⟩

def charRuns (segments : List String) : List CharRun :=
  segments.map fun segment => .ofSegment segment.toList

def itemOf? (runs : List CharRun) (c : Char) : Option (List Char) :=
  runs.findSome? fun run => if run.first ≤ c.toNat then run.items[c.toNat - run.first]? else none

def ownerOf? (runs : List CharRun) (item : List Char) : Option Char :=
  runs.findSome? fun run => (run.items.idxOf? item).map fun i => Char.ofNat (run.first + i)

def decompositions : List CharRun := charRuns decompositionSegments

def compositions : List CharRun := charRuns compositionSegments

/-! ## Hangul syllables

A syllable is a leading consonant, a vowel and perhaps a trailing consonant: the syllables
are numbered in the order of these three. -/

/-- The first syllable, and the characters before the first consonants and vowels. -/
def syllableBase : Nat := 0xAC00
def leadingBase : Nat := 0x1100
def vowelBase : Nat := 0x1161
def trailingBase : Nat := 0x11A7

def leadingCount : Nat := 19
def vowelCount : Nat := 21
def trailingCount : Nat := 28
def syllableCount : Nat := leadingCount * vowelCount * trailingCount

def syllableParts? (c : Char) : Option (List Char) :=
  let i := c.toNat - syllableBase
  if syllableBase ≤ c.toNat ∧ i < syllableCount then
    let leading := Char.ofNat (leadingBase + i / (vowelCount * trailingCount))
    let vowel := Char.ofNat (vowelBase + i / trailingCount % vowelCount)
    if i % trailingCount = 0 then some [leading, vowel]
    else some [leading, vowel, Char.ofNat (trailingBase + i % trailingCount)]
  else none

/-- The syllable of a leading consonant and a vowel, or of such a syllable and a trailing
consonant. -/
def syllable? (a b : Char) : Option Char :=
  let l := a.toNat - leadingBase
  let v := b.toNat - vowelBase
  let s := a.toNat - syllableBase
  let t := b.toNat - trailingBase
  if leadingBase ≤ a.toNat ∧ l < leadingCount ∧ vowelBase ≤ b.toNat ∧ v < vowelCount then
    some (Char.ofNat (syllableBase + (l * vowelCount + v) * trailingCount))
  else if syllableBase ≤ a.toNat ∧ s < syllableCount ∧ s % trailingCount = 0 ∧
      trailingBase < b.toNat ∧ t < trailingCount then
    some (Char.ofNat (a.toNat + t))
  else none

/-! ## The three steps -/

/-- The parts of a character: itself if it has none. -/
def charParts (c : Char) : List Char :=
  (syllableParts? c).getD ((itemOf? decompositions c).getD [c])

/-- A text with all its characters taken apart. -/
def decomposed (text : List Char) : List Char := text.flatMap charParts

/-- The combining class of a character; only combining marks have one other than zero. -/
def combiningClass (c : Char) : Nat :=
  (combiningClasses.findSome? fun (first, last, cls) =>
    if first ≤ c.toNat ∧ c.toNat ≤ last then some cls else none).getD 0

/-- A mark put in front of a text, behind the marks of a lower class. -/
def insertMark (mark : Char) : List Char → List Char
  | [] => [mark]
  | c :: rest =>
    if combiningClass c ≠ 0 ∧ combiningClass c < combiningClass mark then
      c :: insertMark mark rest
    else mark :: c :: rest

/-- A text with each run of combining marks in the order of their classes. -/
def ordered (text : List Char) : List Char :=
  text.foldr (fun c rest => if combiningClass c = 0 then c :: rest else insertMark c rest) []

/-- The composed form of two characters. -/
def pair? (a b : Char) : Option Char := (syllable? a b).or (ownerOf? compositions [a, b])

/-- Composes a text. The last character of class zero so far is held back together with the
marks behind it that did not compose; a mark is blocked by one of its own class or a higher
one. -/
def composeAfter (starter : Char) (marks : List Char) : List Char → List Char
  | [] => starter :: marks
  | c :: rest =>
    let blocked := match marks.getLast? with
      | some mark => combiningClass mark == 0 || combiningClass c ≤ combiningClass mark
      | none => false
    match if blocked then none else pair? starter c with
    | some composed => composeAfter composed marks rest
    | none =>
      if combiningClass c = 0 then starter :: marks ++ composeAfter c [] rest
      else composeAfter starter (marks ++ [c]) rest

/-- A text with everything composed that has a composed form. -/
def composed : List Char → List Char
  | [] => []
  | c :: rest => if combiningClass c = 0 then composeAfter c [] rest else c :: composed rest

/-- The normal form of a text. ASCII characters have no parts and compose with nothing. -/
def normalized (text : List Char) : List Char :=
  if text.all (·.toNat < 0x80) then text else composed (ordered (decomposed text))

end ToolBindings.Text
