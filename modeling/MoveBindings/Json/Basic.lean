import MoveBindings.Decimal.Rounding
import MoveBindings.Dictionary

/-!
# JSON values

Integers are kept apart from other numbers: a literal without a fraction and
without an exponent is an integer of any size, every other number is rounded to
binary64. An object lists its members in the order in which their names first
appear, each name once.
-/

namespace MoveBindings

/-- A JSON value. -/
inductive Json where
  | null
  | bool (value : Bool)
  | integer (value : Int)
  | real (value : Decimal.Binary64)
  | string (text : String)
  | array (items : List Json)
  | object (members : List (String × Json))
deriving Inhabited

namespace Json

/-- The value of a member of an object. -/
def member? (name : String) : Json → Option Json
  | .object members => Dictionary.findEntry? name members
  | _ => none

/-- The text of a string. -/
def text? : Json → Option String
  | .string text => some text
  | _ => none

/-- Whether a value is a string. -/
def isString (value : Json) : Bool := value.text?.isSome

end Json

end MoveBindings
