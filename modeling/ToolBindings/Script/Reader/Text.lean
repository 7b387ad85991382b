import ToolBindings.Script.Escape
import ToolBindings.Script.Lexer
import ToolBindings.Script.Reader.Basic
/-!
# Reading texts

Texts that stand one behind the other are one text, or one sequence of octets; the two do
not mix. In a formatted text, a part in braces is an expression, and behind it there may be
an equals sign, which puts in how the expression is written, a conversion behind an
exclamation mark, and a format behind a colon, which may itself contain expressions.
-/
namespace ToolBindings.Script
open Reader

def TextKind.chars? (kind : TextKind) (body : List Char) : Option (List Char) :=
  if kind.raw then some body else unescaped? kind.octets body

/-! ## Formatted texts -/

/-- The characters up to the next expression or the end. Doubled braces stand for a single one
and divide the text, which the flag tells; inside a format they do not. A name in an escape may
stand in braces. -/
def takePlain (raw inFormat : Bool) : (naming : Bool) → List Char →
    Option (List Char × Bool × List Char)
  | _, [] => some ([], false, [])
  | true, c :: rest =>
    (takePlain raw inFormat (c != '\x7d') rest).map fun (chars, more) => (c :: chars, more)
  | false, '\\' :: c :: rest =>
    if raw then
      if c = '\x7b' ∨ c = '\x7d' then
        (takePlain raw inFormat false (c :: rest)).map fun (chars, more) => ('\\' :: chars, more)
      else (takePlain raw inFormat false rest).map fun (chars, more) => ('\\' :: c :: chars, more)
    else if c = 'N' then
      match rest with
      | '\x7b' :: rest =>
        (takePlain raw inFormat true rest).map fun (chars, more) =>
          ('\\' :: 'N' :: '\x7b' :: chars, more)
      | _ => none
    else if c = '\x7b' ∨ c = '\x7d' then
      (takePlain raw inFormat false (c :: rest)).map fun (chars, more) => ('\\' :: chars, more)
    else (takePlain raw inFormat false rest).map fun (chars, more) => ('\\' :: c :: chars, more)
  | false, c :: rest =>
    if c = '\x7b' ∨ c = '\x7d' then
      if inFormat then some ([], false, c :: rest)
      else if rest.head? = some c then some ([c], true, rest.drop 1)
      else if c = '\x7d' then none
      else some ([], false, c :: rest)
    else (takePlain raw inFormat false rest).map fun (chars, more) => (c :: chars, more)
termination_by _ cs => cs.length
decreasing_by all_goals simp only [List.length_cons]; omega

/-- Whether a character ends an expression that is not in brackets, given the next one. -/
def endsField (c : Char) (next : Option Char) : Bool :=
  (c == '!' || c == ':' || c == '\x7d' || c == '=') && !((c == '!' || c == '=') && next == some '=')

/-- The characters of an expression up to what ends it. A text inside the expression is open if
there is a quote, three of them if the flag is set. -/
def takeField (brackets : List Char) : Option (Char × Bool) → List Char →
    Option (List Char × List Char)
  | _, [] => none
  | some (quote, triple), c :: rest =>
    let go := fun (opened : Option (Char × Bool)) (size : Nat) =>
      (takeField brackets opened (rest.drop size)).map fun (chars, more) =>
        (c :: rest.take size ++ chars, more)
    if c = '\\' then none
    else if c ≠ quote then go (some (quote, triple)) 0
    else if !triple then go none 0
    else if rest.take 2 = [c, c] then go none 2
    else go (some (quote, triple)) 0
  | none, c :: rest =>
    let go := fun (brackets : List Char) (opened : Option (Char × Bool)) (size : Nat) =>
      (takeField brackets opened (rest.drop size)).map fun (chars, more) =>
        (c :: rest.take size ++ chars, more)
    if c = '\\' ∨ c = '#' then none
    else if c = '"' ∨ c = '\x27' then
      if rest.take 2 = [c, c] then go brackets (some (c, true)) 2
      else go brackets (some (c, false)) 0
    else if (closing? c).isSome then go ((closing? c).toList ++ brackets) none 0
    else if brackets = [] ∧ (c = '<' ∨ c = '>') ∧ rest.head? = some '=' then go brackets none 1
    else if brackets = [] ∧ endsField c rest.head? then some ([], c :: rest)
    else if brackets = [] ∧ (c = '!' ∨ c = '=') then go brackets none 1
    else if c = ')' ∨ c = ']' ∨ c = '\x7d' then
      match brackets with
      | expected :: outer => if c = expected then go outer none 0 else none
      | [] => none
    else go brackets none 0
termination_by _ cs => cs.length
decreasing_by all_goals simp only [List.length_drop, List.length_cons]; omega

/-- Whether a character is a blank or a line end. -/
def isSpace (c : Char) : Bool := c == ' ' || ('\t' ≤ c && c ≤ '\r')

def fieldExpression? (r : Rules) (text : List Char) : Option Expr :=
  if text.all isSpace then none
  else match r.expression (tokens (String.ofList ('(' :: text ++ [')']))) with
    | .ok (value, _) => some value
    | .error _ => none

/-- What an equals sign behind an expression adds to it, and what follows. -/
def takeShown (text : List Char) : List Char → Option String × List Char
  | '=' :: rest =>
    let blanks := rest.takeWhile isSpace
    (some (String.ofList (text ++ '=' :: blanks)), rest.dropWhile isSpace)
  | rest => (none, rest)

/-- The conversion behind an expression, if there is one, and what follows. -/
def takeConversion? : List Char → Option (Option Char × List Char)
  | '!' :: c :: d :: rest =>
    if (c = 's' ∨ c = 'r' ∨ c = 'a') ∧ (d = '\x7d' ∨ d = ':') then some (some c, d :: rest)
    else none
  | '!' :: _ => none
  | rest => some (none, rest)

/-- The parts of a formatted text, or of a format inside one, and what follows them. -/
def formatParts? (r : Rules) (raw : Bool) (level : Nat) : (bound : Nat) → List Char →
    Option (List (FormatPart Expr) × List Char)
  | 0, _ => none
  | bound + 1, cs => do
    let (plain, doubled, rest) ← takePlain raw (level ≠ 0) false cs
    let chars ← TextKind.chars? { raw } plain
    let front := if chars = [] then [] else [.text (String.ofList chars)]
    let continued := fun (parts : List (FormatPart Expr)) (rest : List Char) =>
      (formatParts? r raw level bound rest).map fun (more, rest) => (front ++ parts ++ more, rest)
    if doubled then continued [] rest
    else match rest with
      | '\x7b' :: rest =>
        if 2 ≤ level then none
        else do
          let (text, rest) ← takeField [] none rest
          let value ← fieldExpression? r text
          let (shown, rest) := takeShown text rest
          let (conversion, rest) ← takeConversion? rest
          let (format, rest) ← match rest with
            | ':' :: rest => (formatParts? r raw (level + 1) bound rest).map fun (format, rest) =>
                (some format, rest)
            | rest => some (none, rest)
          let conversion :=
            if shown.isSome ∧ conversion.isNone ∧ format.isNone then some 'r' else conversion
          match rest with
          | '\x7d' :: rest =>
            let field := FormatPart.field value conversion (format.map .formatted)
            continued (shown.toList.map .text ++ [field]) rest
          | _ => none
      | rest => if level = 0 ∧ rest ≠ [] then none else some (front, rest)

/-! ## Texts one behind the other -/

/-- The octets of a text literal, which is written in ASCII. -/
def octetsOf? (kind : TextKind) (body : List Char) : Option Octets := do
  let chars ← if body.all (·.toNat < 0x80) then kind.chars? body else none
  return chars.map fun c => UInt8.ofNat c.toNat

def partsOf? (r : Rules) (kind : TextKind) (body : List Char) : Option (List (FormatPart Expr)) :=
  if kind.formatted then (formatParts? r kind.raw 0 (body.length + 1) body).map (·.1)
  else (kind.chars? body).map fun chars => [.text (String.ofList chars)]

def plainText (parts : List (FormatPart Expr)) : String :=
  String.join (parts.map fun
    | .text value => value
    | .field .. => "")

/-- The expression that text literals one behind the other are. -/
def joinedTexts? (r : Rules) (texts : List (TextKind × List Char)) : Option Expr :=
  if texts.all (·.1.octets) then do
    let octets ← texts.mapM fun (kind, body) => octetsOf? kind body
    return .constant (.octets octets.flatten)
  else if texts.any (·.1.octets) then none
  else do
    let parts ← texts.mapM fun (kind, body) => partsOf? r kind body
    if texts.any (·.1.formatted) then some (.formatted parts.flatten)
    else some (.constant (.text (plainText parts.flatten)))

def texts (r : Rules) : Reader Expr := do
  let literals ← many r.bound do
    match ← peek with
    | .text kind body =>
      advance
      return some (kind, body)
    | _ => return none
  match joinedTexts? r literals with
  | some value => return value
  | none => stopFor .form

end ToolBindings.Script
