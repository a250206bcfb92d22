import MoveBindings.Text.Search

/-!
# Paths

A path has a root, if it is absolute, and components. Empty components and
single dots are dropped when a path is read; double dots are kept, because what
they lead to depends on the directories that exist.
-/

namespace MoveBindings

/-- A path as a root and components. The root is empty for a relative path. -/
structure Path where
  root : String
  components : List String
deriving DecidableEq, Repr

namespace Path

/-- The root that slashes at the start of a text denote: exactly two are a root of their own. -/
def rootOf : List Char → String
  | '/' :: '/' :: '/' :: _ => "/"
  | '/' :: '/' :: _ => "//"
  | '/' :: _ => "/"
  | _ => ""

/-- The path that a text denotes. -/
def ofString (text : String) : Path :=
  let pieces := (Text.splitOn '/' text.toList).map String.ofList
  ⟨rootOf text.toList, pieces.filter fun piece => piece ≠ "" ∧ piece ≠ "."⟩

/-- The root, if there is one, followed by the components. -/
def parts (p : Path) : List String :=
  if p.root = "" then p.components else p.root :: p.components

/-- A path as text. -/
def text (p : Path) : String :=
  if p.root = "" ∧ p.components = [] then "."
  else p.root ++ "/".intercalate p.components

/-- The path without its last component. -/
def parent (p : Path) : Path := { p with components := p.components.dropLast }

/-- The last component. -/
def name (p : Path) : String := p.components.getLast?.getD ""

/-- The second path as seen from the first. An absolute path stands for itself. -/
def join (p q : Path) : Path :=
  if q.root = "" then { p with components := p.components ++ q.components } else q

end Path

end MoveBindings
