import MoveBindings.Path.Basic

/-!
# Relative import sources

A generated file names another one by the way from its own directory: up to the
deepest directory that both share, and down from there. The source starts with
a dot, so that it is not taken for the name of a library.
-/

namespace MoveBindings.Path

/-- How many leading parts two lists have in common. -/
def commonLength : List String → List String → Nat
  | a :: as, b :: bs => if a = b then commonLength as bs + 1 else 0
  | _, _ => 0

/-- The source by which a file imports a target. Both are given from the output root. -/
def importSource (file target : Path) : String :=
  let directory := file.parent.parts
  let shared := commonLength directory target.parts
  let ups := directory.length - shared
  let downs := target.parts.drop shared
  if ups = 0 then
    if downs.isEmpty then "./" ++ target.name else "./" ++ "/".intercalate downs
  else
    String.join (List.replicate ups "../") ++ "/".intercalate downs

end MoveBindings.Path
