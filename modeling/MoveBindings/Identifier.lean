import MoveBindings.Text.Search

/-!
# Safe identifiers

Move names may be reserved words of the generated language, and the compiler
makes up names for temporaries and shadowed locals with characters that no
identifier has. Naming rules turn any name into a safe one; the first rule that
applies decides.
-/

namespace MoveBindings

/-- The rules by which names become identifiers. -/
structure NamingRules where
  reservedWords : List String := ["default", "for", "new"]
  keywordSuffix : String := "__"
  tempMarker : String := "%#"
  tempPrefix : String := "temp$"
  shadowSeparator : String := "#"
  shadowReplacement : String := "__"
deriving DecidableEq, Repr

namespace NamingRules

/-- What follows the marker of a temporary. An empty marker marks nothing. -/
def temporary? (rules : NamingRules) (name : String) : Option (List Char) :=
  if rules.tempMarker.isEmpty then none
  else Text.dropStart? rules.tempMarker.toList name.toList

/-- A name with every separator of shadowed locals replaced. -/
def unshadowed (rules : NamingRules) (name : String) : String :=
  String.ofList
    (Text.replaceAll rules.shadowSeparator.toList rules.shadowReplacement.toList name.toList)

/-- The identifier for a name: a reserved word gets the suffix, a temporary gets its marker
replaced, and in any other name the separators are replaced. -/
def identifier (rules : NamingRules) (name : String) : String :=
  if name ∈ rules.reservedWords then name ++ rules.keywordSuffix
  else
    match rules.temporary? name with
    | some rest => rules.tempPrefix ++ String.ofList rest
    | none => rules.unshadowed name

/-- A reserved word is recognised first. -/
theorem identifier_of_mem {rules : NamingRules} {name : String}
    (h : name ∈ rules.reservedWords) : rules.identifier name = name ++ rules.keywordSuffix := by
  simp [identifier, h]

end NamingRules

end MoveBindings
