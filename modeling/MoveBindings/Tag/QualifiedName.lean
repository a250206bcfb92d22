import MoveBindings.Tag.Reader

/-!
# Reading qualified names

A struct is named by `address::module::name`. The double colon is found from
left to right, and all three parts must be there.
-/

namespace MoveBindings

namespace QualifiedName

/-- The pieces of a text between double colons. -/
def pieces : List Char → List (List Char)
  | [] => [[]]
  | ':' :: ':' :: text => [] :: pieces text
  | c :: text =>
    match pieces text with
    | [] => [[c]]
    | piece :: others => (c :: piece) :: others

/-- The qualified name that a text spells. -/
def read (text : String) : Except Tag.SyntaxError QualifiedName :=
  match pieces text.toList with
  | [address, module, name] =>
    if address.isEmpty || module.isEmpty || name.isEmpty then
      .error ⟨text, 0, .notQualified⟩
    else .ok ⟨String.ofList address, String.ofList module, String.ofList name⟩
  | _ => .error ⟨text, 0, .notQualified⟩

end QualifiedName

end MoveBindings
