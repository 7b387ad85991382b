import ToolBindings.Text.Decimal
import ToolBindings.Text.Printable.Table
/-!
# Quoted text in messages

A message shows a text that it talks about between single quotes, or between double
quotes if the text has a single quote and no double one. What cannot be seen is
written as an escape, so the message stays on one line.
-/
namespace ToolBindings.Text

/-- One character of a quoted text: the enclosing quote and the backslash are escaped,
and so is every character without a glyph, by the shortest escape that can hold it. -/
def quotedChar (quote c : Char) : List Char :=
  if c = quote ∨ c = '\\' then ['\\', c]
  else if c = '\n' then ['\\', 'n']
  else if c = '\r' then ['\\', 'r']
  else if c = '\t' then ['\\', 't']
  else if !unprintable.covers c then [c]
  else if c.toNat < 0x100 then '\\' :: 'x' :: hexDigits 2 c.toNat
  else if c.toNat < 0x10000 then '\\' :: 'u' :: hexDigits 4 c.toNat
  else '\\' :: 'U' :: hexDigits 8 c.toNat

def enclosingQuote (text : List Char) : Char :=
  if '\x27' ∈ text ∧ '"' ∉ text then '"' else '\x27'

/-- A text as messages show it. -/
def quoted (text : String) : String :=
  let quote := enclosingQuote text.toList
  String.ofList (quote :: text.toList.flatMap (quotedChar quote) ++ [quote])

end ToolBindings.Text
