import MoveBindings.Container
import MoveBindings.Emission.ContainerClassPath
import MoveBindings.Proofs.Catalog
import MoveBindings.Proofs.Path.Package

/-!
# Where bindings and classes lie

The bindings of a module lie in the package that lists it, or in the standard
package when none does; the class of a container lies beside the bindings of the
container's module. When all names are Move identifiers, each of these is an
entry in the directory of one package.
-/

namespace MoveBindings

namespace Environment

/-- The package in which the bindings of a module are looked for. -/
def packageFor (env : Environment) (id : ModuleId) : String :=
  (env.modules.find? id).getD env.settings.stdPackage

/-- The path of a module's bindings, without extension. -/
def bindingsAt (env : Environment) (id : ModuleId) : String :=
  inPackage (env.packageFor id) id.name

/-- The path of a container's class, without the extension `.ts`. -/
def classAt (env : Environment) (name : QualifiedName) : String :=
  inPackage (env.packageFor name.moduleId) (name.module ++ ".accessors")

/-- The name that the settings give to a container, as far as it can be taken apart. -/
def nameOf (env : Environment) (container : Container) : QualifiedName :=
  match containerName (container.configuredName env.settings) with
  | .ok name => name
  | .error _ => ⟨"", "", ""⟩

/-- The name that the settings give to a container can be taken apart. -/
def NamesContainer (env : Environment) (container : Container) : Prop :=
  containerName (container.configuredName env.settings) = .ok (env.nameOf container)

theorem namesContainer_iff {env : Environment} {container : Container} :
    env.NamesContainer container ↔
      ∃ name, containerName (container.configuredName env.settings) = .ok name := by
  unfold NamesContainer nameOf
  cases containerName (container.configuredName env.settings) with
  | ok name => simp
  | error problem => simp

section Known

variable {env : Environment} {modules : ModuleMap} {container : Container}

/-- The bindings of every module have a path when there is a list of known modules. -/
theorem bindingsPath_of_known (known : env.known = some modules) (id : ModuleId) :
    env.bindingsPath id = .ok (env.bindingsAt id) := by
  simp [bindingsPath, bindingsAt, packageFor, Environment.modules, inPackage, known]

/-- Then the class of a container also has one, if the container's name can be taken apart. -/
theorem classStem_of_named (known : env.known = some modules)
    (named : env.NamesContainer container) :
    env.classStem (container.configuredName env.settings) =
      .ok (env.classAt (env.nameOf container)) := by
  rw [classStem, named, ok_bind, bindingsPath_of_known known, ok_bind]
  simp only [bindingsAt, classAt, inPackage, QualifiedName.moduleId, String.append_assoc]
  rfl

theorem classFilePath_of_named (known : env.known = some modules)
    (named : env.NamesContainer container) :
    env.classFilePath (container.configuredName env.settings) =
      .ok (env.classAt (env.nameOf container) ++ ".ts") := by
  rw [classFilePath, classStem_of_named known named]
  rfl

end Known

/-- An environment for the modules of a catalog, where the packages and modules of the catalog and
the standard package are named by Move identifiers. -/
structure WellPlaced (env : Environment) (catalog : Catalog) : Prop where
  known : env.known = some catalog.packageOf
  reachable : catalog.Reachable
  declared : catalog.HasMoveIdentifiers
  standard : IsMoveIdentifier env.settings.stdPackage

/-- An environment for the modules of a catalog, where the packages and modules of the catalog, the
standard package and all parts of the containers' names are Move identifiers. -/
structure WellNamed (env : Environment) (catalog : Catalog)
    (names : Container → QualifiedName) : Prop where
  known : env.known = some catalog.packageOf
  reachable : catalog.Reachable
  declared : catalog.HasMoveIdentifiers
  standard : IsMoveIdentifier env.settings.stdPackage
  configured : ∀ container : Container, container.configuredName env.settings =
    (names container).text
  containers : ∀ container, (names container).HasMoveIdentifiers

namespace WellPlaced

variable {env : Environment} {catalog : Catalog}

theorem modules_eq (w : env.WellPlaced catalog) : env.modules = catalog.packageOf := by
  rw [modules, w.known, Option.getD_some]

/-- A module that is found is listed by the package in which it is found. -/
theorem exists_package_of_contains (w : env.WellPlaced catalog) {id : ModuleId}
    (found : env.modules.contains id = true) :
    ∃ package ∈ catalog.packages, package.name = env.packageFor id ∧ package.lists id = true := by
  obtain ⟨name, found⟩ := Option.isSome_iff_exists.mp found
  have name_eq : env.packageFor id = name := by rw [packageFor, found, Option.getD_some]
  rw [w.modules_eq] at found
  rw [name_eq]
  exact w.reachable.exists_package found

/-- A module is listed by the package in which it is looked for, or it is listed nowhere and looked
for in the standard package. -/
theorem listed_or_standard (w : env.WellPlaced catalog) (id : ModuleId) :
    (∃ package ∈ catalog.packages, package.name = env.packageFor id ∧ package.lists id = true) ∨
      (env.packageFor id = env.settings.stdPackage ∧
        ∀ package ∈ catalog.packages, package.lists id = false) := by
  cases found : env.modules.contains id with
  | true => exact .inl (w.exists_package_of_contains found)
  | false =>
    have missing : env.modules.find? id = none := by
      simpa [Dictionary.contains] using found
    refine .inr ⟨by rw [packageFor, missing, Option.getD_none], ?_⟩
    rw [w.modules_eq] at missing
    exact w.reachable.find?_eq_none_iff.mp missing

/-- Whatever the module, its package is named by an identifier. -/
theorem packageFor_isMoveIdentifier (w : env.WellPlaced catalog) (id : ModuleId) :
    IsMoveIdentifier (env.packageFor id) := by
  rcases w.listed_or_standard id with ⟨package, member, name_eq, _⟩ | ⟨standard, _⟩
  · exact name_eq ▸ w.declared.package package member
  · exact standard ▸ w.standard

end WellPlaced

namespace WellNamed

variable {env : Environment} {catalog : Catalog} {names : Container → QualifiedName}

theorem wellPlaced (w : env.WellNamed catalog names) : env.WellPlaced catalog :=
  ⟨w.known, w.reachable, w.declared, w.standard⟩

theorem containerName_eq (w : env.WellNamed catalog names) (container : Container) :
    containerName (container.configuredName env.settings) = .ok (names container) := by
  rw [containerName, w.configured, (w.containers container).read_text]

theorem namesContainer (w : env.WellNamed catalog names) (container : Container) :
    env.NamesContainer container :=
  namesContainer_iff.mpr ⟨names container, w.containerName_eq container⟩

theorem nameOf_eq (w : env.WellNamed catalog names) : env.nameOf = names := by
  funext container
  have named := w.namesContainer container
  rw [NamesContainer, w.containerName_eq, Except.ok.injEq] at named
  exact named.symm

/-- The class of every container has a path. -/
theorem classStem_eq (w : env.WellNamed catalog names) (container : Container) :
    env.classStem (container.configuredName env.settings) =
      .ok (env.classAt (names container)) := by
  rw [classStem_of_named w.known (w.namesContainer container), w.nameOf_eq]

theorem classFilePath_eq (w : env.WellNamed catalog names) (container : Container) :
    env.classFilePath (container.configuredName env.settings) =
      .ok (env.classAt (names container) ++ ".ts") := by
  rw [classFilePath_of_named w.known (w.namesContainer container), w.nameOf_eq]

end WellNamed

end Environment

end MoveBindings
