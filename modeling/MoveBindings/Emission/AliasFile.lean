import MoveBindings.Container
import MoveBindings.Emission.ContainerClassPath
import MoveBindings.Emission.Links

/-!
# Alias files

For each module with container fields one file gives every such field a typed
alias: the container's class applied to the types of keys and values. The file
imports what these types refer to and nothing else.
-/

namespace MoveBindings

open TypeScript

namespace AliasFile

/-- The path of a module's alias file. -/
def path (package : String) (module : ModuleId) : String :=
  package ++ "/" ++ module.name ++ ".tables.ts"

/-- The types of keys and values, in order. -/
def tags (fields : List ContainerField) : List Tag :=
  fields.flatMap fun field => [field.key, field.value]

/-- The classes that are imported from one file of classes. -/
def classNames (stems : List (String × Container)) (stem : String) : List String :=
  Text.sorted ((stems.filter fun entry => entry.1 == stem).map fun entry => entry.2.className)

end AliasFile

namespace Environment

/-- The name of a field's alias: the struct and the field, each made an identifier. The field comes
first when renamings are noted. -/
def aliasIdentifier (env : Environment) (field : ContainerField) (location : String) :
    Emission String := do
  let name ← env.identifier field.fieldName location
  if field.owner = "" then return name
  else return (← env.identifier field.owner location) ++ "$" ++ name

/-- The type of keys or values. A type that falls back to `any` is noted. -/
def aliasType (env : Environment) (field : ContainerField) (tag : Tag) (location : String) :
    Emission String := do
  let type := typeName env.modules tag
  if mentionsAny type then
    match tag.text? with
    | none => Emission.fail .unknownType
    | some text =>
      Emission.note ⟨.untyped field.fieldName text, location⟩
      return type
  else return type

/-- The alias of a field, which must not be taken. -/
def fieldAlias (env : Environment) (path : String) (taken : List String)
    (field : ContainerField) : Emission TypeAlias := do
  let name ← env.aliasIdentifier field path
  if name ∈ taken then Emission.fail (.duplicate ⟨"type alias", name, path⟩)
  else
    let key ← env.aliasType field field.key path
    let value ← env.aliasType field field.value path
    return { name, value := field.container.className ++ "<" ++ key ++ ", " ++ value ++ ">" }

/-- The aliases of fields in order, where some names are taken. -/
def fieldAliases (env : Environment) (path : String) (taken : List String) :
    List ContainerField → Emission (List TypeAlias)
  | [] => pure []
  | field :: rest => do
    let first ← env.fieldAlias path taken field
    let others ← env.fieldAliases path (first.name :: taken) rest
    return first :: others

/-- The files of the classes that fields refer to, in ascending order, each with its classes. -/
def classLinks (env : Environment) (path : String) (fields : List ContainerField) :
    Except Failure (List Link) := do
  let stems ← fields.mapM fun field => do
    return (← env.classStem field.qualifiedName, field.container)
  return (Text.sorted (stems.map Prod.fst)).map fun stem =>
    ⟨importSource path stem, .names (AliasFile.classNames stems stem)⟩

/-- The modules that types refer to, in ascending order. -/
def modulesOf (env : Environment) (tags : List Tag) : List ModuleId :=
  sortedSet ModuleId.less (tags.flatMap (modulesUsed env.modules))

/-- The file of the aliases of fields at a path. -/
def aliasSource (env : Environment) (path : String) (fields : List ContainerField) :
    Emission Script := do
  let aliases ← env.fieldAliases path [] fields
  let tags := AliasFile.tags fields
  let classes ← Emission.ofExcept (env.classLinks path fields)
  let modules ← Emission.ofExcept ((env.modulesOf tags).mapM fun id => env.bindingsLink path id)
  let imports := env.libraryLinks (tags.flatMap libraryTypes) ++ classes ++ modules
  return ⟨imports.map .importFrom ++ aliases.map .typeAlias⟩

/-- The alias file of a module, as its path and syntax. -/
def aliasFile (env : Environment) (package : String) (module : ModuleId)
    (fields : List ContainerField) : Emission (String × Script) := do
  let path := AliasFile.path package module
  return (path, ← env.aliasSource path fields)

end Environment

end MoveBindings
