import MoveBindings.Decimal.Shortest
import MoveBindings.Json.Basic
import MoveBindings.Text.Quoted

/-!
# Values in messages

Messages show a value on one line: names for the constants, quoted texts,
numbers by their shortest decimal, and items and members separated by a comma
and a space.
-/

namespace MoveBindings.Json

/-- Decimals are written positionally from `0.0001` up to below `1e+16`; a written exponent has
at least two digits. -/
def displayLayout : Decimal.Layout := ⟨-4, 16, 2⟩

/-- The text of a number of binary64. -/
def displayReal : Decimal.Binary64 → String
  | .nan => "nan"
  | .infinite negative => if negative then "-inf" else "inf"
  | .finite negative magnitude =>
    (if negative then "-" else "") ++ String.ofList (magnitude.text displayLayout)

mutual

/-- The text of a value in a message. -/
def display : Json → String
  | .null => "None"
  | .bool true => "True"
  | .bool false => "False"
  | .integer value => toString value
  | .real value => displayReal value
  | .string text => Text.quote text
  | .array items => "[" ++ ", ".intercalate (displayItems items) ++ "]"
  | .object members => "\x7b" ++ ", ".intercalate (displayMembers members) ++ "\x7d"

/-- The texts of the items of an array. -/
def displayItems : List Json → List String
  | [] => []
  | item :: rest => display item :: displayItems rest

/-- The texts of the members of an object. -/
def displayMembers : List (String × Json) → List String
  | [] => []
  | (name, value) :: rest => (Text.quote name ++ ": " ++ display value) :: displayMembers rest

end

/-- What kind of value it is, as messages name it. -/
def kindName : Json → String
  | .null => "NoneType"
  | .bool _ => "bool"
  | .integer _ => "int"
  | .real _ => "float"
  | .string _ => "str"
  | .array _ => "list"
  | .object _ => "dict"

end MoveBindings.Json
