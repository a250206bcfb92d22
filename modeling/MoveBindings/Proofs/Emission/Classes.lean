import MoveBindings.Emission.ProjectFiles
import MoveBindings.Proofs.Emission.BindingPaths
import MoveBindings.Proofs.TypeScript.Scripts

/-!
# Class files in closed form

Under well-formed names the class of a container can always be made. Its file
imports libraries, the module of the container from beside it, and the links of
an iterable table from where their module lies.
-/

namespace MoveBindings

open TypeScript

namespace Environment

open ContainerClass

/-- The alias for the module of links. -/
def optionName (env : Environment) : String :=
  namespaceAlias (env.settings.naming.identifier optionModule)

/-- The imports of modules that only some containers need. -/
def optionLinks (env : Environment) (container : Container) (path address : String) : List Link :=
  match container with
  | .table => []
  | .iterableTable =>
    [⟨importSource path (env.bindingsAt ⟨address, optionModule⟩), .whole env.optionName⟩]

/-- The members of a container's class. -/
def classMembers (env : Environment) (container : Container) (name : QualifiedName) :
    List Node :=
  let qualifiedName := container.configuredName env.settings
  match container with
  | .table => tableMembers name qualifiedName
  | .iterableTable =>
    iterableTableMembers name qualifiedName env.optionName env.settings.maxIterableEntries

/-- The file of a container's class. -/
def classScript (env : Environment) (container : Container) (path : String)
    (name : QualifiedName) : Script where
  nodes :=
    (env.classImports container name ++ env.optionLinks container path name.address).map
        .importFrom ++
      [.classDecl { name := container.className, typeParams } (env.classMembers container name)]

/-- The class of a container at its place. -/
def classFileAt (env : Environment) (names : Container → QualifiedName) (container : Container) :
    ClassFile :=
  let path := env.classAt (names container) ++ ".ts"
  ⟨container, ⟨path, env.classScript container path (names container)⟩⟩

theorem optionName_ne_empty (env : Environment) : env.optionName ≠ "" := by
  simp [optionName, namespaceAlias]

theorem outcome_optionNamespace (env : Environment) :
    env.optionNamespace.outcome = .ok env.optionName := by
  simp [optionNamespace, safeNamespace, optionName, outcome_identifier]

@[simp] theorem imports_classScript (env : Environment) (container : Container) (path : String)
    (name : QualifiedName) :
    (env.classScript container path name).imports =
      env.classImports container name ++ env.optionLinks container path name.address := by
  simp only [classScript, Script.imports_append, Script.imports_map_importFrom,
    Script.imports_classDecl, Script.imports_nil, List.append_nil]

@[simp] theorem exports_classScript (env : Environment) (container : Container) (path : String)
    (name : QualifiedName) : (env.classScript container path name).exports = [] := by
  simp only [classScript, Script.exports_append, Script.exports_map_importFrom,
    Script.exports_classDecl, Script.exports_nil, List.append_nil]

/-- The file of a container's class declares it. -/
theorem class?_classScript (env : Environment) (container : Container) (path : String)
    (name : QualifiedName) :
    (env.classScript container path name).class? container.className =
      some ({ name := container.className, typeParams }, env.classMembers container name) := by
  simp [classScript, Script.class?, List.findSome?_append, List.findSome?_eq_none_iff.mpr]

theorem outcome_noteEndless (env : Environment) (container : Container) (path : String) :
    (env.noteEndless container path).outcome = .ok () := by
  unfold noteEndless
  split <;> rfl

section Known

variable {env : Environment} {modules : ModuleMap}

/-- The link to the bindings of a module can be made when there is a list of known modules. -/
theorem bindingsLink_of_known (known : env.known = some modules) (path : String) (id : ModuleId) :
    env.bindingsLink path id =
      .ok ⟨importSource path (env.bindingsAt id), .whole (namespaceAlias id.name)⟩ := by
  rw [bindingsLink, bindingsPath_of_known known]
  rfl

/-- A link under a name that is not empty has that name. -/
theorem bindingsLink_some_of_known (known : env.known = some modules) (path : String)
    (id : ModuleId) {boundName : String} (named : boundName ≠ "") :
    env.bindingsLink path id (some boundName) =
      .ok ⟨importSource path (env.bindingsAt id), .whole boundName⟩ := by
  have chosen : ((some boundName).filter (· ≠ "")).getD (namespaceAlias id.name) = boundName := by
    simp [Option.filter, named]
  rw [bindingsLink, bindingsPath_of_known known, ok_bind, chosen]
  rfl

/-- The file of a container's class can be made. -/
theorem outcome_classSource_of_known (known : env.known = some modules) (container : Container)
    (path : String) (name : QualifiedName) :
    (env.classSource container path name).outcome = .ok (env.classScript container path name) := by
  cases container with
  | table => simp [classSource, classScript, optionLinks, classMembers]
  | iterableTable =>
    have link := bindingsLink_some_of_known known path ⟨name.address, optionModule⟩
      env.optionName_ne_empty
    simp [classSource, classScript, optionLinks, classMembers, Emission.outcome_bind,
      outcome_optionNamespace, link, ok_bind]

/-- The class of a container can be made when its name can be taken apart. -/
theorem outcome_containerClass_of_named (known : env.known = some modules) {container : Container}
    (named : env.NamesContainer container) :
    (env.containerClass container).outcome =
      .ok (env.classAt (env.nameOf container) ++ ".ts",
        env.classScript container (env.classAt (env.nameOf container) ++ ".ts")
          (env.nameOf container)) := by
  have name : containerName (container.configuredName env.settings) = _ := named
  simp [containerClass, Emission.outcome_bind, classFilePath_of_named known named, name, ok_bind,
    outcome_noteEndless, outcome_classSource_of_known known]

/-- Then it lies at its place. -/
theorem outcome_classFile_of_named (known : env.known = some modules) {container : Container}
    (named : env.NamesContainer container) (packages : List String) :
    (env.classFile packages container).outcome = .ok (env.classFileAt env.nameOf container) := by
  rw [classFile, Emission.outcome_bind, outcome_containerClass_of_named known named, ok_bind]
  dsimp only
  split <;> rfl

end Known

/-- The link to the bindings of a module can be made. -/
theorem WellNamed.bindingsLink_eq {env : Environment} {catalog : Catalog}
    {names : Container → QualifiedName} (w : env.WellNamed catalog names) (path : String)
    (id : ModuleId) :
    env.bindingsLink path id =
      .ok ⟨importSource path (env.bindingsAt id), .whole (namespaceAlias id.name)⟩ :=
  bindingsLink_of_known w.known path id

end Environment

end MoveBindings
