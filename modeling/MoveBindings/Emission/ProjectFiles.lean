import MoveBindings.Declaration.Catalog
import MoveBindings.Emission.AliasFile
import MoveBindings.Emission.ContainerFields
import MoveBindings.Emission.ContainerClass
import MoveBindings.Emission.IndexFile

/-!
# Files of a project

A project is generated over all its packages: the alias files of the modules
with container fields, the classes of the containers in use, and the indexes,
which also list the files generated beside the modules. The first failure ends
the generation.
-/

namespace MoveBindings

open TypeScript

/-- A file of a project, before it is laid out. -/
structure SourceAt where
  path : String
  source : Script

/-- The alias file of a module, with the containers that its fields use. -/
structure ModuleAliases where
  module : ModuleId
  file : SourceAt
  containers : List Container

/-- The stem under which a package's index lists an alias file. -/
def ModuleAliases.stem (aliases : ModuleAliases) : String := aliases.module.name ++ ".tables"

/-- A package with the alias files of its modules. -/
structure PackageAliases where
  package : Package
  modules : List ModuleAliases

/-- The file of a container's class. -/
structure ClassFile where
  container : Container
  file : SourceAt

namespace ClassFile

/-- The package that a class file is placed in: the path up to its first separator. -/
def package (c : ClassFile) : String :=
  String.ofList (Text.cutAt '/' c.file.path.toList).1

/-- The stem under which a package's index lists the class file: the path below the package,
without `.ts`. -/
def stem (c : ClassFile) : String :=
  String.ofList ((Text.cutAt '/' c.file.path.toList).2.dropLast.dropLast.dropLast)

end ClassFile

/-- The containers that alias files use. -/
def usedContainers (packages : List PackageAliases) : List Container :=
  let used := packages.flatMap fun aliases => aliases.modules.flatMap ModuleAliases.containers
  Container.all.filter fun container => used.contains container

/-- The files that a package's index lists beside the modules: alias files first. -/
def companions (aliases : PackageAliases) (classes : List ClassFile) : List String :=
  aliases.modules.map ModuleAliases.stem ++
    (classes.filter fun c => c.package == aliases.package.name).map ClassFile.stem

namespace Environment

/-- The environment of a project with the given catalog. -/
def ofCatalog (settings : Settings) (catalog : Catalog) : Environment :=
  { settings, known := some catalog.packageOf }

/-- The alias file of a module, if it has container fields. -/
def moduleAliases (env : Environment) (package : String) (module : Module) :
    Emission (Option ModuleAliases) := do
  let fields ← Emission.ofExcept (env.moduleContainerFields module)
  if fields.isEmpty then return none
  else
    let (path, source) ← env.aliasFile package module.id fields
    return some ⟨module.id, ⟨path, source⟩, fields.map ContainerField.container⟩

/-- The alias files of a package, in the order of its modules. -/
def packageAliases (env : Environment) (package : Package) : Emission PackageAliases := do
  let modules ← package.modules.mapM (env.moduleAliases package.name)
  return ⟨package, modules.filterMap id⟩

/-- The file of a container's class. One that belongs to no package of the project is noted. -/
def classFile (env : Environment) (packages : List String) (container : Container) :
    Emission ClassFile := do
  let (path, source) ← env.containerClass container
  let c : ClassFile := ⟨container, ⟨path, source⟩⟩
  if c.package ∉ packages then
    Emission.note ⟨.unindexedClass (container.configuredName env.settings), path⟩
  return c

/-- The files of a package: alias files and the index. -/
def packageFiles (env : Environment) (classes : List ClassFile) (aliases : PackageAliases) :
    Emission (List SourceAt) := do
  let package := aliases.package
  let index ← env.packageIndex package.name (package.modules.map Module.id)
    (companions aliases classes)
  return aliases.modules.map ModuleAliases.file ++ [⟨IndexFile.packagePath package.name, index⟩]

/-- All files of a project, before they are laid out: package by package, then the classes of
containers, then the index of the project. -/
def projectSources (env : Environment) (catalog : Catalog) : Emission (List SourceAt) := do
  let aliases ← catalog.packages.mapM env.packageAliases
  let classes ← (usedContainers aliases).mapM (env.classFile catalog.names)
  let files ← aliases.mapM (env.packageFiles classes)
  let index ← env.projectIndex catalog.names
  return files.flatten ++ classes.map ClassFile.file ++ [⟨IndexFile.projectPath, index⟩]

/-- All files of a project, with paths from the source root. -/
def projectFiles (env : Environment) (catalog : Catalog) : Emission (List OutputFile) := do
  let sources ← env.projectSources catalog
  Emission.ofExcept (sources.mapM fun file => env.layOut file.path file.source)

end Environment

end MoveBindings
