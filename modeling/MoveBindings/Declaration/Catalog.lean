import MoveBindings.Declaration.Basic
import MoveBindings.Dictionary
import MoveBindings.Failure
import MoveBindings.TypeScript.TypeName

/-!
# The catalog of packages

The catalog holds packages in the order in which they were added, each under
its own name. It also finds the package of a module; when several packages list
a module, the last one added counts.
-/

namespace MoveBindings

/-- The packages of a project, and the package of each of their modules. -/
structure Catalog where
  packages : List Package := []
  packageOf : ModuleMap := .empty

namespace Catalog

/-- The names of the packages, in order. -/
def names (c : Catalog) : List String := c.packages.map Package.name

/-- Adds a package unless there is one of its name. -/
def add (c : Catalog) (package : Package) : Except Failure Catalog :=
  if package.name ∈ c.names then .error (.manifest (.declaredTwice package.name))
  else
    .ok
      { packages := c.packages ++ [package]
        packageOf := c.packageOf.insertAll
          (package.modules.map fun module => (module.id, package.name)) }

/-- A package is added at the end, under a new name. -/
theorem packages_of_add {c larger : Catalog} {package : Package} (h : c.add package = .ok larger) :
    package.name ∉ c.names ∧ larger.packages = c.packages ++ [package] := by
  unfold add at h
  split at h
  · cases h
  · next fresh =>
    cases h
    exact ⟨fresh, rfl⟩

end Catalog

end MoveBindings
