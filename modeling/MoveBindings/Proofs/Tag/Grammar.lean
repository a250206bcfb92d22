import MoveBindings.Tag.Reader

/-!
# The grammar of type tags

A tag is a scalar's keyword, a vector of a tag, or the name of a struct with or
without a list of tags between angle brackets:

    tag  := scalar | 'vector' '<' tag '>' | name | name '<' tags '>'
    tags := tag | tag ',' tags
    name := address '::' word '::' word

A derivation is a tree of this grammar together with the blanks before each of
its tokens, so it has one text and one tag. A spelling adds the blanks at the
end of the text. Nothing here refers to the reader.
-/

namespace MoveBindings.Tag.Grammar

open Text

/-- A run of blanks, perhaps an empty one. -/
@[ext] structure Blanks where
  text : List Char
  blank : ∀ c ∈ text, isBlank c

/-- A token after blanks. -/
def Blanks.before (blanks : Blanks) (token : String) : List Char := blanks.text ++ token.toList

/-- A word: word characters, at least one. -/
@[ext] structure Word where
  text : String
  nonempty : text.toList ≠ []
  chars : ∀ c ∈ text.toList, isWordChar c

/-- A word that may stand for an address. The keywords of the grammar may not. -/
@[ext] structure Address extends Word where
  notScalar : text ∉ scalarNames
  notVector : text ≠ vectorName

/-- The name of a struct, with the blanks before each of its tokens. -/
@[ext] structure StructName where
  beforeAddress : Blanks
  address : Address
  beforeModuleColons : Blanks
  beforeModule : Blanks
  module : Word
  beforeNameColons : Blanks
  beforeName : Blanks
  name : Word

namespace StructName

/-- The name without its blanks. -/
def qualified (n : StructName) : QualifiedName := ⟨n.address.text, n.module.text, n.name.text⟩

/-- The name as it is spelled. -/
def text (n : StructName) : List Char :=
  n.beforeAddress.before n.address.text ++
    (n.beforeModuleColons.before "::" ++
      (n.beforeModule.before n.module.text ++
        (n.beforeNameColons.before "::" ++ n.beforeName.before n.name.text)))

end StructName

mutual

/-- A derivation of a tag, with the blanks before each of its tokens. -/
inductive Derivation where
  | scalar (before : Blanks) (name : String) (known : name ∈ scalarNames)
  | vector (before beforeOpening : Blanks) (element : Derivation) (beforeClosing : Blanks)
  | struct (name : StructName)
  | applied (name : StructName) (beforeOpening : Blanks) (params : Params) (beforeClosing : Blanks)

/-- A derivation of the tags between angle brackets: at least one, separated by commas. -/
inductive Params where
  | last (param : Derivation)
  | more (param : Derivation) (beforeComma : Blanks) (others : Params)

end

mutual

/-- The text of a derivation. -/
def Derivation.text : Derivation → List Char
  | .scalar before name _ => before.before name
  | .vector before beforeOpening element beforeClosing =>
    before.before vectorName ++
      (beforeOpening.before "<" ++ (element.text ++ beforeClosing.before ">"))
  | .struct name => name.text
  | .applied name beforeOpening params beforeClosing =>
    name.text ++ (beforeOpening.before "<" ++ (params.text ++ beforeClosing.before ">"))

/-- The text of a derivation of several tags. -/
def Params.text : Params → List Char
  | .last param => param.text
  | .more param beforeComma others => param.text ++ (beforeComma.before "," ++ others.text)

end

mutual

/-- The tag that is derived. -/
def Derivation.tag : Derivation → Tag
  | .scalar _ name _ => .scalar name
  | .vector _ _ element _ => .vector element.tag
  | .struct name => .struct name.qualified []
  | .applied name _ params _ => .struct name.qualified params.tags

/-- The tags that are derived. -/
def Params.tags : Params → List Tag
  | .last param => [param.tag]
  | .more param _ others => param.tag :: others.tags

end

/-- A derivation with the blanks at the end of its text. -/
@[ext] structure Spelling where
  derivation : Derivation
  after : Blanks

namespace Spelling

/-- The whole text of a spelling. -/
def text (s : Spelling) : List Char := s.derivation.text ++ s.after.text

/-- The tag that is spelled. -/
def tag (s : Spelling) : Tag := s.derivation.tag

end Spelling

end MoveBindings.Tag.Grammar
