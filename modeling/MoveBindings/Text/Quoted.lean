import MoveBindings.Text.Printable

/-!
# Quoted text

A text is shown between single quotes, or between double quotes when it holds a
single quote and no double quote. The backslash, the quote in use and every
character that is not printable are escaped, so a quoted text is one visible
line from which the text can be read off.
-/

namespace MoveBindings.Text

/-- The last `width` hexadecimal digits of a number, in lower case. -/
def hexDigits : (width value : Nat) → List Char
  | 0, _ => []
  | width + 1, value => hexDigits width (value / 16) ++ [Nat.digitChar (value % 16)]

namespace Quoted

/-- The quote that surrounds a text. -/
def delimiter (text : List Char) : Char :=
  if text.contains '\x27' && !text.contains '"' then '"' else '\x27'

/-- The escape of a code point by its hexadecimal digits, as few as two, four or eight. -/
def escapeCode (code : Nat) : List Char :=
  if code < 0x100 then '\\' :: 'x' :: hexDigits 2 code
  else if code < 0x10000 then '\\' :: 'u' :: hexDigits 4 code
  else '\\' :: 'U' :: hexDigits 8 code

/-- How one character is written inside the given quotes. -/
def escape (quote c : Char) : List Char :=
  if c == quote || c == '\\' then ['\\', c]
  else if c == '\n' then ['\\', 'n']
  else if c == '\r' then ['\\', 'r']
  else if c == '\t' then ['\\', 't']
  else if isPrintable c then [c]
  else escapeCode c.toNat

end Quoted

/-- A text between quotes, with its escapes. -/
def quote (text : String) : String :=
  let chars := text.toList
  let mark := Quoted.delimiter chars
  String.ofList (mark :: chars.flatMap (Quoted.escape mark) ++ [mark])

end MoveBindings.Text
