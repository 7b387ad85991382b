import ToolBindings.Text.LowerCase.Table
/-!
# Lower and upper case

`lowerCase` maps a whole text, because two capital letters do not go one to one:
İ becomes an i and a combining dot, and Σ becomes the final form of sigma at the end
of a word. Upper case is needed only where the answer is compared with ASCII words.
-/
namespace ToolBindings.Text

/-- The lower-case form of one character, if the mapping has one of a single character. -/
def lowerOne (c : Char) : Char :=
  match lowerRuns.find? fun run => run.first ≤ c.toNat && c.toNat ≤ run.last &&
      (c.toNat - run.first) % run.step == 0 with
  | some run => Char.ofNat (run.lower + (c.toNat - run.first))
  | none => c

/-- Whether the first character that is not skipped is a cased letter. -/
def metByCased (neighbours : List Char) : Bool :=
  match neighbours.dropWhile caseIgnorable.covers with
  | [] => false
  | c :: _ => cased.covers c

/-- The lower-case text, given the characters that stand before it, last one first. -/
def lowerAfter (before : List Char) : List Char → List Char
  | [] => []
  | c :: rest =>
    let lowered :=
      if c = 'Σ' then [if metByCased before && !metByCased rest then 'ς' else 'σ']
      else if c = 'İ' then ['i', '\u0307']
      else [lowerOne c]
    lowered ++ lowerAfter (c :: before) rest

def lowerCase (text : List Char) : List Char := lowerAfter [] text

/-- The upper-case form of a character where that is one ASCII letter: besides a to z,
only the dotless i and the long s have one. Other characters stay. -/
def upperOne (c : Char) : Char :=
  if c = 'ı' then 'I' else if c = 'ſ' then 'S' else c.toUpper

end ToolBindings.Text
