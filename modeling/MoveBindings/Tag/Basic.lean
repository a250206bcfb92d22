import MoveBindings.QualifiedName

/-!
# Type tags

A type tag describes a Move type: a scalar named by its keyword, a vector, or a
struct named by the address and module that declare it, with type parameters. A
fourth kind stands for a type about which the metadata says nothing; it has no
text form.
-/

namespace MoveBindings

/-- A description of a Move type. -/
inductive Tag where
  | scalar (name : String)
  | vector (element : Tag)
  | struct (name : QualifiedName) (params : List Tag)
  | unknown
deriving Inhabited

namespace Tag

/-- The names of the scalar types. -/
def scalarNames : List String :=
  ["bool", "u8", "u16", "u32", "u64", "u128", "u256", "address", "signer"]

/-- The keyword of the vector type. -/
def vectorName : String := "vector"

/-- Parameters between angle brackets, or nothing when there are none. -/
def angled (params : List String) : String :=
  if params.isEmpty then "" else "<" ++ ", ".intercalate params ++ ">"

mutual

/-- The canonical text of a tag. The unknown type has the empty text. -/
def text : Tag → String
  | .scalar name => name
  | .vector element => vectorName ++ "<" ++ element.text ++ ">"
  | .struct name params => name.text ++ angled (texts params)
  | .unknown => ""

/-- The canonical texts of a list of tags. -/
def texts : List Tag → List String
  | [] => []
  | tag :: rest => tag.text :: texts rest

end

mutual

/-- Whether a tag can be written: every part of it whose text is needed is known. -/
def isKnown : Tag → Bool
  | .scalar _ => true
  | .vector element => element.isKnown
  | .struct _ params => areKnown params
  | .unknown => false

/-- Whether every tag of a list can be written. -/
def areKnown : List Tag → Bool
  | [] => true
  | tag :: rest => tag.isKnown && areKnown rest

end

/-- The text of a tag that can be written. -/
def text? (tag : Tag) : Option String :=
  if tag.isKnown then some tag.text else none

theorem texts_eq_map (tags : List Tag) : texts tags = tags.map text := by
  induction tags with
  | nil => rfl
  | cons tag rest ih => simp [texts, ih]

theorem areKnown_eq_all (tags : List Tag) : areKnown tags = tags.all isKnown := by
  induction tags with
  | nil => rfl
  | cons tag rest ih => simp [areKnown, ih]

end Tag

end MoveBindings
