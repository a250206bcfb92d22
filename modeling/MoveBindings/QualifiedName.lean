import MoveBindings.Text.Ordering

/-!
# Names of modules and structs

A module is named by the address it is published at and its own name, a struct
by its module and its own name. Both are written with double colons.
-/

namespace MoveBindings

/-- A module at an address. -/
structure ModuleId where
  address : String
  name : String
deriving DecidableEq, Repr

/-- A module's name as text. -/
def ModuleId.text (m : ModuleId) : String := m.address ++ "::" ++ m.name

/-- Modules ascend by their address, and at one address by their name. -/
def ModuleId.less (a b : ModuleId) : Bool :=
  Text.less a.address b.address || (a.address == b.address && Text.less a.name b.name)

/-- A struct with the address and the module that declare it. -/
structure QualifiedName where
  address : String
  module : String
  name : String
deriving DecidableEq, Repr

namespace QualifiedName

/-- A struct's name as text. -/
def text (q : QualifiedName) : String := q.address ++ "::" ++ q.module ++ "::" ++ q.name

/-- The module that declares a struct. -/
def moduleId (q : QualifiedName) : ModuleId := ⟨q.address, q.module⟩

end QualifiedName

end MoveBindings
