import MoveBindings.Dictionary
import MoveBindings.Tag.Basic
import MoveBindings.Text.Alphanumeric
import MoveBindings.Text.Ordering

/-!
# TypeScript types of Move types

A scalar has a class of the runtime or client library, a vector becomes an
array, and a struct of a known module is found in that module's namespace. The
type parameters of a struct are not written. Everything else becomes `any`.

A type refers to at most one name of a library or one module. These references
can be told from the tag alone, or be collected while the type is made.
-/

namespace MoveBindings

/-- The modules whose bindings are generated, each with the package that holds it. -/
abbrev ModuleMap := Dictionary ModuleId String

/-- The alias under which generated files import a module. -/
def namespaceAlias (module : String) : String := module ++ "$_"

namespace TypeScript

/-- The type of everything that cannot be typed. -/
def anyType : String := "any"

/-- The type of a scalar. -/
def scalarType : String → String
  | "bool" => "boolean"
  | "u8" => "U8"
  | "u16" => "U16"
  | "u32" => "U32"
  | "u64" => "U64"
  | "u128" => "U128"
  | "u256" => "U256"
  | "address" => "HexString"
  | "signer" => "HexString"
  | _ => anyType

/-- The types that the runtime library provides. -/
def runtimeTypes : List String := ["U8", "U16", "U32", "U64", "U128", "U256"]

/-- The types that the client library provides. -/
def clientTypes : List String := ["HexString"]

/-- The type of a vector. A type with a space in it is put between parentheses. -/
def arrayOf (element : String) : String :=
  if ' ' ∈ element.toList then "(" ++ element ++ ")[]" else element ++ "[]"

/-- The type of a tag, where the given modules are known. -/
def typeName (known : ModuleMap) : Tag → String
  | .scalar name => scalarType name
  | .vector element => arrayOf (typeName known element)
  | .struct name _ =>
    if known.contains name.moduleId then namespaceAlias name.module ++ "." ++ name.name
    else anyType
  | .unknown => anyType

/-- The library types that the type of a tag refers to. -/
def libraryTypes : Tag → List String
  | .scalar name =>
    let type := scalarType name
    if type ∈ runtimeTypes ++ clientTypes then [type] else []
  | .vector element => libraryTypes element
  | _ => []

/-- The modules that the type of a tag refers to. -/
def modulesUsed (known : ModuleMap) : Tag → List ModuleId
  | .vector element => modulesUsed known element
  | .struct name _ => if known.contains name.moduleId then [name.moduleId] else []
  | _ => []

/-- The names that types refer to, collected in ascending sets. Nothing is collected in a set that
is missing. -/
structure References where
  types : Option (List String) := none
  modules : Option (List ModuleId) := none
deriving DecidableEq, Repr

namespace References

/-- Collects a type of a library. -/
def addType (references : References) (type : String) : References :=
  { references with types := references.types.map (insertSorted Text.less type) }

/-- Collects a module. -/
def addModule (references : References) (id : ModuleId) : References :=
  { references with modules := references.modules.map (insertSorted ModuleId.less id) }

end References

/-- Makes the type of a tag, and collects what it refers to on the way. -/
def convert (known : ModuleMap) : Tag → References → String × References
  | .scalar name, references =>
    let type := scalarType name
    (type, if type ∈ runtimeTypes ++ clientTypes then references.addType type else references)
  | .vector element, references =>
    let (type, collected) := convert known element references
    (arrayOf type, collected)
  | .struct name _, references =>
    if known.contains name.moduleId then
      (namespaceAlias name.module ++ "." ++ name.name, references.addModule name.moduleId)
    else (anyType, references)
  | .unknown, references => (anyType, references)

/-- Whether a type has the word `any` in it. -/
def mentionsAny (type : String) : Bool :=
  (Text.words type.toList).contains anyType.toList

end TypeScript

end MoveBindings
