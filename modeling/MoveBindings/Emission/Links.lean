import MoveBindings.Emission.Environment
import MoveBindings.Path.Relative

/-!
# Imports of generated files

Library names are imported from the client library or the runtime library,
bindings of modules under an alias by a path from the importing file.
-/

namespace MoveBindings

open TypeScript

/-- The source by which a file imports a target. -/
def importSource (file target : String) : String :=
  Path.importSource (Path.ofString file) (Path.ofString target)

/-- Whether a name comes from the client library. -/
def isClientName (name : String) : Bool :=
  name ∈ clientTypes || name == "AptosClient"

/-- An import of names, unless there are none. -/
def linkNames (source : String) (names : List String) : List Link :=
  if names.isEmpty then [] else [⟨source, .names names⟩]

namespace Environment

/-- The imports of library names, the client library first, names in ascending order. -/
def libraryLinks (env : Environment) (names : List String) : List Link :=
  let sorted := Text.sorted names
  linkNames env.settings.clientModule (sorted.filter isClientName) ++
    linkNames env.settings.runtimeModule (sorted.filter fun name => !isClientName name)

/-- The import of the whole runtime library. -/
def runtimeLink (env : Environment) (boundName : Option String := some "$") : Link :=
  ⟨env.settings.runtimeModule, .of [] boundName⟩

/-- The import of a module's bindings. Without a name to bind it to, or with an empty one,
the module is bound to its usual name. -/
def bindingsLink (env : Environment) (file : String) (id : ModuleId)
    (boundName : Option String := none) : Except Failure Link := do
  let chosen := (boundName.filter (· ≠ "")).getD (namespaceAlias id.name)
  return ⟨importSource file (← env.bindingsPath id), .whole chosen⟩

end Environment

end MoveBindings
