import MoveBindings.Json.Display

/-!
# Writing JSON

A value is written with one item or member on a line, two more spaces of
indentation inside each bracket, and only ASCII characters.
-/

namespace MoveBindings.Json

namespace Writer

open Text

/-- A 16-bit unit as an escape. -/
def unitEscape (unit : Nat) : List Char := '\\' :: 'u' :: hexDigits 4 unit

/-- How one character is written inside a string. Characters past U+FFFF take two units. -/
def escape (c : Char) : List Char :=
  if c == '"' || c == '\\' then ['\\', c]
  else if c == '\n' then ['\\', 'n']
  else if c == '\r' then ['\\', 'r']
  else if c == '\t' then ['\\', 't']
  else if c == '\x08' then ['\\', 'b']
  else if c == '\x0c' then ['\\', 'f']
  else if 0x20 ≤ c.toNat && c.toNat < 0x7f then [c]
  else if c.toNat < 0x10000 then unitEscape c.toNat
  else
    let above := c.toNat - 0x10000
    unitEscape (0xd800 + above / 0x400) ++ unitEscape (0xdc00 + above % 0x400)

/-- A string between double quotes. -/
def string (text : String) : String :=
  String.ofList ('"' :: text.toList.flatMap escape ++ ['"'])

/-- The text of a number. -/
def real : Decimal.Binary64 → String
  | .nan => "NaN"
  | .infinite negative => if negative then "-Infinity" else "Infinity"
  | .finite negative magnitude => displayReal (.finite negative magnitude)

/-- A new line at a depth of nesting. -/
def newline (depth : Nat) : String := String.ofList ('\n' :: List.replicate (2 * depth) ' ')

/-- The pieces of a container between brackets, each on a line of its own. -/
def bracketed (opening closing : String) (depth : Nat) (pieces : List String) : String :=
  if pieces.isEmpty then opening ++ closing
  else
    opening ++ newline (depth + 1) ++ ("," ++ newline (depth + 1)).intercalate pieces ++
      newline depth ++ closing

mutual

/-- The text of a value inside `depth` brackets. -/
def value (depth : Nat) : Json → String
  | .null => "null"
  | .bool true => "true"
  | .bool false => "false"
  | .integer number => toString number
  | .real number => real number
  | .string text => string text
  | .array list => bracketed "[" "]" depth (items (depth + 1) list)
  | .object list => bracketed "\x7b" "\x7d" depth (members (depth + 1) list)

/-- The texts of the items of an array. -/
def items (depth : Nat) : List Json → List String
  | [] => []
  | item :: rest => value depth item :: items depth rest

/-- The texts of the members of an object. -/
def members (depth : Nat) : List (String × Json) → List String
  | [] => []
  | (name, item) :: rest => (string name ++ ": " ++ value depth item) :: members depth rest

end

end Writer

/-- A value as indented text. -/
def pretty (value : Json) : String := Writer.value 0 value

end MoveBindings.Json
