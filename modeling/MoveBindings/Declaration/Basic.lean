import MoveBindings.Tag.Basic

/-!
# Declarations

What is known about a Move project: packages hold modules, modules declare
structs, and structs have fields with types. All lists keep the order in which
the declarations were given.
-/

namespace MoveBindings

/-- A field of a struct with its type. -/
structure Field where
  name : String
  type : Tag

/-- A struct with its fields. -/
structure Struct where
  name : String
  fields : List Field

/-- A module with its structs. -/
structure Module where
  id : ModuleId
  structs : List Struct

/-- A package with its modules. -/
structure Package where
  name : String
  modules : List Module

/-- Whether a package lists a module. -/
def Package.lists (package : Package) (id : ModuleId) : Bool :=
  package.modules.any fun module => module.id == id

end MoveBindings
