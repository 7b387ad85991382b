import ToolBindings.Script.Numeral
import ToolBindings.Text.Identifier
import ToolBindings.Text.Normalization
import ToolBindings.Text.Printable.Table
/-!
# Reading tokens

`tokens` cuts a text into the tokens of a script.

* A line is as deep as its blanks are wide. A deeper line opens a block, and a shallower one
  closes blocks until it is as deep as one that is open. To be safe from the width of a tab,
  two lines must compare the same way whether tabs reach to the next multiple of eight or
  count as one column.
* Inside brackets, and behind a backslash, a line end is a blank; so are empty lines and
  lines with nothing but a comment.
* A word is a name or a keyword; in front of a quote it can say how the text is meant. Text
  in three quotes may go over line ends, text in one may not.
-/
namespace ToolBindings.Script
open Text (isIdentifier isKeyword normalized unprintable)

/-- A text with each of the three kinds of line end as a line feed. -/
def withLineFeeds : List Char → List Char
  | [] => []
  | '\r' :: '\n' :: rest => '\n' :: withLineFeeds rest
  | '\r' :: rest => '\n' :: withLineFeeds rest
  | c :: rest => c :: withLineFeeds rest

/-! ## Depth of lines -/

/-- The width of the blanks in front of a line, in both ways to count tabs. -/
structure Margin where
  column : Nat := 0
  narrow : Nat := 0
deriving DecidableEq, Repr

namespace Margin

def blank (m : Margin) : Margin := ⟨m.column + 1, m.narrow + 1⟩

def tab (m : Margin) : Margin := ⟨(m.column / 8 + 1) * 8, m.narrow + 1⟩

/-- The margin at the front of a text, and what follows it. If a line is continued within its
margin, what stands before counts, unless it is nothing. -/
def read (m : Margin) (before : Nat) : List Char → Except Token (Margin × List Char)
  | ' ' :: rest => read m.blank before rest
  | '\t' :: rest => read m.tab before rest
  | '\x0c' :: rest => read {} before rest
  | ['\\', '\n'] => .error (.invalid .form false)
  | '\\' :: '\n' :: rest => read m (if before = 0 then m.column else before) rest
  | '\\' :: _ => .error (.invalid .form false)
  | rest => .ok (if before = 0 then m else ⟨before, before⟩, rest)

end Margin

/-- The deepest nesting of blocks. -/
def maxBlocks : Nat := 99

/-- The tokens with which a line begins, and the blocks that are open then. The innermost
block comes first, and the whole script, which begins at column zero, is not among them. -/
def enterLine (m : Margin) : List Margin → Except Token (List Token × List Margin)
  | [] =>
    if m.column = 0 then .ok ([], [])
    else .ok ([.indent], [m])
  | block :: blocks =>
    if m.column = block.column then
      if m.narrow = block.narrow then .ok ([], block :: blocks)
      else .error (.invalid .tabs false)
    else if block.column < m.column then
      if maxBlocks ≤ blocks.length + 1 then .error (.invalid .indentation false)
      else if block.narrow < m.narrow then .ok ([.indent], m :: block :: blocks)
      else .error (.invalid .tabs false)
    else
      let outer := (blocks.head?.map Margin.column).getD 0
      if outer < m.column then .error (.invalid .indentation false)
      else (enterLine m blocks).map fun (tokens, blocks) => (.dedent :: tokens, blocks)

/-! ## Texts between quotes -/

/-- What letters in front of a quote say about the text. -/
def textKind? (letters : List Char) : Option TextKind :=
  [("", {}), ("u", {}), ("r", { raw := true }), ("b", { octets := true }),
    ("f", { formatted := true }), ("br", { raw := true, octets := true }),
    ("rb", { raw := true, octets := true }), ("fr", { raw := true, formatted := true }),
    ("rf", { raw := true, formatted := true })].lookup (String.ofList (letters.map Char.toLower))

/-- The text up to the closing quotes, and what follows them. Text in a single quote ends with
its line. -/
def readQuoted? (quote : Char) (triple : Bool) : List Char → Option (List Char × List Char)
  | [] => none
  | ['\\'] => none
  | '\\' :: c :: rest =>
    (readQuoted? quote triple rest).map fun (body, rest) => ('\\' :: c :: body, rest)
  | c :: rest =>
    if c = quote then
      if !triple then some ([], rest)
      else match rest with
        | d :: e :: behind =>
          if d = quote ∧ e = quote then some ([], behind)
          else (readQuoted? quote triple rest).map fun (body, rest) => (c :: body, rest)
        | _ => none
    else if !triple ∧ c = '\n' then none
    else (readQuoted? quote triple rest).map fun (body, rest) => (c :: body, rest)

def readText? (kind : TextKind) (quote : Char) : List Char → Option (Token × List Char)
  | c :: d :: rest =>
    if c = quote ∧ d = quote then
      (readQuoted? quote true rest).map fun (body, rest) => (.text kind body, rest)
    else
      (readQuoted? quote false (c :: d :: rest)).map fun (body, rest) => (.text kind body, rest)
  | rest => (readQuoted? quote false rest).map fun (body, rest) => (.text kind body, rest)

/-! ## Words and signs -/

def beginsWithQuote : List Char → Bool
  | c :: _ => c == '"' || c == '\x27'
  | [] => false

/-- How many letters at the front of a text say how the quote behind them is meant. -/
def textLetters? (cs : List Char) : Option (TextKind × List Char) :=
  [0, 1, 2].findSome? fun n =>
    if beginsWithQuote (cs.drop n) then (textKind? (cs.take n)).map (·, cs.drop n) else none

def wordToken (word : List Char) : Token :=
  if isKeyword word then .keyword (String.ofList word)
  else if isIdentifier word then .name (String.ofList (normalized word))
  else .invalid .form true

def longSigns : List String := [
  "**=", "//=", "<<=", ">>=", "...", "!=", "**", "*=", "+=", "-=", "->", "//", "/=", ":=", "<<",
  "<=", "<>", "==", ">=", ">>", "@=", "%=", "&=", "^=", "|="]

def signAt (cs : List Char) : List Char :=
  match longSigns.find? (·.toList.isPrefixOf cs) with
  | some sign => sign.toList
  | none => cs.take 1

/-- The closing bracket for an opening one. -/
def closing? (c : Char) : Option Char := [('(', ')'), ('[', ']'), ('\x7b', '\x7d')].lookup c

/-- The deepest nesting of brackets. -/
def maxBrackets : Nat := 200

/-- The brackets that are open behind a sign, given by those that will close them. -/
def bracketsAfter? (sign : List Char) (brackets : List Char) : Option (List Char) :=
  match sign with
  | [c] =>
    match closing? c with
    | some close => if brackets.length < maxBrackets then some (close :: brackets) else none
    | none =>
      if c = ')' ∨ c = ']' ∨ c = '\x7d' then
        match brackets with
        | expected :: outer => if c = expected then some outer else none
        | [] => none
      else if unprintable.covers c then none
      else some brackets
  | _ => some brackets

/-! ## The whole text -/

/-- The part of a text from the end of its first line. -/
def dropLine (cs : List Char) : List Char := cs.dropWhile (· ≠ '\n')

/-- The token at the front of a text that begins with no blank, comment or line end, the
brackets that are open behind it, and what follows it. -/
def readToken (brackets cs : List Char) : Token × List Char × List Char :=
  let invalid := (.invalid .form true, brackets, [])
  match textLetters? cs, cs with
  | some (kind, quote :: rest), _ =>
    match readText? kind quote rest with
    | some (token, rest) => (token, brackets, rest)
    | none => invalid
  | _, cs =>
    if beginsWithDigit cs ∨ cs.head? = some '.' ∧ beginsWithDigit (cs.drop 1) then
      match Numeral.read? cs with
      | some (value, rest) => (.number value, brackets, rest)
      | none => invalid
    else
      let word := cs.takeWhile isWordPart
      if word ≠ [] then (wordToken word, brackets, cs.dropWhile isWordPart)
      else
        let sign := signAt cs
        match bracketsAfter? sign brackets with
        | some brackets => (.symbol (String.ofList sign), brackets, cs.drop sign.length)
        | none => invalid

/-- The tokens of a text. The bound is the number of steps; every step but the first of a
line takes something off the text. -/
def tokensWithin : Nat → (blocks : List Margin) → (brackets : List Char) → (lineStart : Bool) →
    List Char → List Token
  | 0, _, _, _, _ => []
  | bound + 1, blocks, brackets, true, cs =>
    match Margin.read {} 0 cs with
    | .error token => [token]
    | .ok (margin, rest) =>
      if brackets ≠ [] then tokensWithin bound blocks brackets false rest
      else if rest.head? = some '#' ∨ rest.head? = some '\n' then
        tokensWithin bound blocks brackets true ((dropLine rest).drop 1)
      else match enterLine margin blocks with
        | .error token => [token]
        | .ok (tokens, blocks) => tokens ++ tokensWithin bound blocks brackets false rest
  | bound + 1, blocks, brackets, false, cs =>
    match cs with
    | [] => if brackets = [] then [.finish] else [.invalid .form false]
    | ' ' :: rest | '\t' :: rest | '\x0c' :: rest => tokensWithin bound blocks brackets false rest
    | '#' :: rest => tokensWithin bound blocks brackets false (dropLine rest)
    | '\n' :: rest =>
      if brackets = [] then .newline :: tokensWithin bound blocks brackets true rest
      else tokensWithin bound blocks brackets true rest
    | ['\\', '\n'] => [.invalid .form false]
    | '\\' :: '\n' :: rest => tokensWithin bound blocks brackets false rest
    | '\\' :: _ => [.invalid .form false]
    | cs =>
      match readToken brackets cs with
      | (.invalid flaw lasting, _, _) => [.invalid flaw lasting]
      | (token, brackets, rest) => token :: tokensWithin bound blocks brackets false rest

/-- The tokens of a text. Behind its last line there is a line end, whether the text has it
or not. -/
def tokens (text : String) : List Token :=
  let cs := withLineFeeds text.toList
  let cs := if cs.getLast? = some '\n' then cs else cs ++ ['\n']
  if '\x00' ∈ cs then [.invalid .form true]
  else tokensWithin (2 * cs.length + 2) [] [] true cs

end ToolBindings.Script
