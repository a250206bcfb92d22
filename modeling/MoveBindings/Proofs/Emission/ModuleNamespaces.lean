import MoveBindings.Proofs.Emission.AliasScopes
import MoveBindings.Proofs.Emission.Children
import MoveBindings.Proofs.Emission.IndexNames

/-!
# The names under which files import modules

Files import whole modules under namespaces. The index of a package and the
class of the iterable table make the name of a module an identifier first, alias
files take it as it is. The namespaces of all files are listed here, with the
way in which alias files name modules left open. So it can be said what the
files have, what they would have if identifiers were used everywhere, and when
this is the same.
-/

namespace MoveBindings

open TypeScript

namespace TypeScript

/-- What a link imports as a whole: the name it is bound to, and the source. -/
def Link.whole? (link : Link) : Option (String × String) :=
  link.namespace?.map fun name => (name, link.source)

/-- What a file imports as a whole. -/
def Script.wholes (file : Script) : List (String × String) := file.imports.filterMap Link.whole?

end TypeScript

/-- The path of a file, and what it imports as a whole. -/
def SourceAt.wholes (file : SourceAt) : String × List (String × String) :=
  (file.path, file.source.wholes)

/-- The name and the source of a child. -/
def Child.pair (child : Child) : String × String := (child.boundName, child.source)

namespace Environment

variable {env : Environment} {catalog : Catalog}

/-! ## What should be imported -/

/-- The modules that the alias file of a module refers to. -/
def referenced (env : Environment) (module : Module) : List ModuleId :=
  match env.moduleContainerFields module with
  | .ok fields => env.modulesOf (AliasFile.tags fields)
  | .error _ => []

/-- The modules that an alias file imports. They are bound by their names, after a change. -/
def aliasWholes (env : Environment) (change : String → String) (package : String)
    (module : Module) : String × List (String × String) :=
  let path := AliasFile.path package module.id
  (path, (env.referenced module).map fun id =>
    (namespaceAlias (change id.name), importSource path (env.bindingsAt id)))

/-- The classes that a project needs, container by container. -/
def neededClasses (env : Environment) (catalog : Catalog) : List ClassFile :=
  (Container.all.filter fun container => catalog.Uses env.settings container).map
    (env.classFileAt env.nameOf)

/-- The modules that the index of a package imports, bound by their identifiers, and the files
beside them. -/
def indexWholes (env : Environment) (catalog : Catalog) (package : Package) :
    String × List (String × String) :=
  let rename := env.settings.naming.identifier
  let classes := (env.neededClasses catalog).filter fun c => c.package == package.name
  (IndexFile.packagePath package.name,
    package.modules.map (fun module =>
        (namespaceAlias (rename module.id.name), "./" ++ module.id.name)) ++
      (env.tableChildren package ++ classes.map ClassFile.stem).map fun stem =>
        (env.companionEntry stem).pair)

/-- What the class of a container imports: the runtime library, and in the class of the iterable
table the module of links, bound by its identifier. -/
def classWholes (env : Environment) (container : Container) : String × List (String × String) :=
  let path := (env.classFileAt env.nameOf container).file.path
  (path, ("$", env.settings.runtimeModule) ::
    match container with
    | .table => []
    | .iterableTable =>
      [(namespaceAlias (env.settings.naming.identifier optionModule),
        importSource path (env.bindingsAt ⟨(env.nameOf container).address, optionModule⟩))])

/-- What all files of a project import as a whole, when alias files bind modules by their names
after a change. -/
def allWholes (env : Environment) (catalog : Catalog) (change : String → String) :
    List (String × List (String × String)) :=
  (catalog.packages.flatMap fun package =>
    (package.modules.filter (Module.hasContainerFields env.settings)).map
        (env.aliasWholes change package.name) ++
      [env.indexWholes catalog package]) ++
  (Container.all.filter fun container => catalog.Uses env.settings container).map
    env.classWholes ++
  [(IndexFile.projectPath, (catalog.names.map env.packageEntry).filterMap fun package =>
    if package.boundName = "" then none else some package.pair)]

/-- With two ways to change names, an alias file has the same imports when no module that it refers
to is named differently. -/
theorem aliasWholes_eq_iff {change other : String → String} {package : String} {module : Module} :
    env.aliasWholes change package module = env.aliasWholes other package module ↔
      ∀ id ∈ env.referenced module, change id.name = other id.name := by
  simp only [aliasWholes, Prod.mk.injEq, true_and, List.map_inj_left, and_true,
    namespaceAlias_injective.eq_iff]

/-- With two ways to change names, all files have the same imports when no module that an alias file
refers to is named differently. -/
theorem allWholes_eq_iff {change other : String → String} :
    env.allWholes catalog change = env.allWholes catalog other ↔
      ∀ package ∈ catalog.packages, ∀ module ∈ package.modules,
        module.hasContainerFields env.settings = true →
          ∀ id ∈ env.referenced module, change id.name = other id.name := by
  rw [allWholes, allWholes, List.append_left_inj, List.append_left_inj,
    flatMap_eq_flatMap_iff (by simp)]
  simp only [List.append_left_inj, List.map_inj_left, List.mem_filter, and_imp,
    aliasWholes_eq_iff]

/-! ## What is imported -/

theorem wholes_libraryLinks (names : List String) :
    (env.libraryLinks names).filterMap Link.whole? = [] := by
  rw [List.filterMap_eq_nil_iff]
  intro link member
  obtain ⟨_, imported, binding, _⟩ := mem_libraryLinks member
  rw [Link.whole?, Link.namespace?, binding]
  rfl

theorem wholes_stemLinks (path : String) (stems : List (String × Container)) :
    (stemLinks path stems).filterMap Link.whole? = [] := by
  rw [List.filterMap_eq_nil_iff]
  intro link member
  obtain ⟨stem, _, rfl⟩ := List.mem_map.mp member
  rfl

theorem wholes_moduleLinks (path : String) (tags : List Tag) :
    (env.moduleLinks path tags).filterMap Link.whole? = (env.modulesOf tags).map fun id =>
      (namespaceAlias id.name, importSource path (env.bindingsAt id)) := by
  rw [moduleLinks, List.filterMap_map, ← List.filterMap_eq_map]
  rfl

theorem wholes_aliasScript (path : String) (fields : List ContainerField)
    (stems : List (String × Container)) :
    (env.aliasScript path fields stems).wholes =
      (env.modulesOf (AliasFile.tags fields)).map fun id =>
        (namespaceAlias id.name, importSource path (env.bindingsAt id)) := by
  rw [Script.wholes, aliasScript, Script.imports_append, Script.imports_map_importFrom,
    Script.imports_map_typeAlias, List.append_nil, List.filterMap_append, List.filterMap_append,
    wholes_libraryLinks, wholes_stemLinks, wholes_moduleLinks]
  rfl

theorem wholes_children {children : List Child} :
    (children.map Child.link).filterMap Link.whole? = children.filterMap fun child =>
      if child.boundName = "" then none else some child.pair := by
  rw [List.filterMap_map]
  refine List.filterMap_congr fun child _ => ?_
  rw [Function.comp_apply, Link.whole?, Child.namespace?_link]
  split <;> rfl

theorem wholes_packageScript (modules : List ModuleId) (companions : List String) :
    (env.packageScript modules companions).wholes =
      modules.map (fun id =>
          (namespaceAlias (env.settings.naming.identifier id.name), "./" ++ id.name)) ++
        companions.map fun stem => (env.companionEntry stem).pair := by
  have named : (env.packageChildren modules companions).filterMap
      (fun child => if child.boundName = "" then none else some child.pair) =
        (env.packageChildren modules companions).map Child.pair := by
    rw [← List.filterMap_eq_map]
    exact List.filterMap_congr fun child member =>
      if_neg (env.boundName_ne_empty_of_mem member)
  have library : Link.whole? ⟨env.settings.runtimeModule, .names [IndexFile.parserRepo]⟩ = none :=
    rfl
  rw [Script.wholes, imports_packageScript, List.filterMap_cons, library]
  dsimp only
  rw [wholes_children, named, packageChildren, List.map_append, List.map_map, List.map_map,
    List.map_map]
  rfl

theorem wholes_projectScript (packages : List String) :
    (env.projectScript packages).wholes =
      (packages.map env.packageEntry).filterMap fun package =>
        if package.boundName = "" then none else some package.pair := by
  rw [Script.wholes, imports_projectScript, List.filterMap_cons]
  exact wholes_children

theorem wholes_classFileAt (container : Container) :
    (env.classFileAt env.nameOf container).file.wholes = env.classWholes container := by
  have fixed (name : QualifiedName) : (env.classImports container name).filterMap Link.whole? =
      [("$", env.settings.runtimeModule)] := by
    rw [classImports, List.cons_append, List.filterMap_cons, List.filterMap_append,
      wholes_libraryLinks]
    rfl
  refine congrArg₂ Prod.mk rfl ?_
  rw [classFileAt, Script.wholes, imports_classScript, List.filterMap_append, fixed]
  cases container <;> rfl

/-! ## Runs -/

/-- An alias file imports the modules that its module refers to, bound by their names. -/
theorem wholes_of_makesAliases {package : String} {module : Module} {result : ModuleAliases}
    (made : MakesAliases env package module (some result)) :
    result.file.wholes = env.aliasWholes id package module := by
  cases made with
  | some found _ made =>
    obtain ⟨_, stems, _, rfl⟩ := of_aliasSource made
    rw [SourceAt.wholes, wholes_aliasScript, aliasWholes, referenced, found]
    rfl

namespace Run

/-- The index of a package imports its modules, bound by their identifiers. -/
theorem wholes_indexAt (run : Run env catalog env.nameOf) {result : PackageAliases}
    (member : result ∈ run.aliases) :
    (env.indexAt run.classes result).wholes = env.indexWholes catalog result.package := by
  rw [SourceAt.wholes, indexAt, wholes_packageScript, companions, run.makesAll.map_stem member,
    classes, classesFor, run.makesAll.usedContainers_eq, List.map_map]
  rfl

/-- The alias files and the index of each package. -/
theorem map_wholes_packageSources (run : Run env catalog env.nameOf) {result : PackageAliases}
    (member : result ∈ run.aliases) :
    (run.packageSources result).map SourceAt.wholes =
      (result.package.modules.filter (Module.hasContainerFields env.settings)).map
          (env.aliasWholes id result.package.name) ++
        [env.indexWholes catalog result.package] := by
  obtain ⟨package, _, made⟩ := exists_element run.made member
  obtain ⟨results, each, rfl⟩ := outcome_packageAliases_eq_ok_iff.mp made
  have aliases := map_eq_map ((aliasFiles_of_modules each).imp fun module file makes =>
    wholes_of_makesAliases makes)
  rw [packageSources, List.map_append, List.map_singleton, run.wholes_indexAt member, List.map_map]
  exact congrArg (· ++ _) aliases

/-- The files of a run import modules under identifiers, but for alias files, which go by names. -/
theorem map_wholes_sources (run : Run env catalog env.nameOf) :
    run.sources.map SourceAt.wholes = env.allWholes catalog id := by
  have packages : (run.aliases.flatMap run.packageSources).map SourceAt.wholes = _ :=
    (List.map_flatMap).trans <| List.flatMap_congr fun result member =>
      run.map_wholes_packageSources member
  have classFiles : (run.classes.map ClassFile.file).map SourceAt.wholes =
      (usedContainers run.aliases).map env.classWholes := by
    rw [classes, classesFor, List.map_map, List.map_map]
    exact List.map_congr_left fun container _ => wholes_classFileAt container
  rw [sources, List.map_append, List.map_append, packages, classFiles,
    run.makesAll.usedContainers_eq, List.map_singleton, SourceAt.wholes, wholes_projectScript,
    allWholes, ← run.map_package, List.flatMap_map]

end Run

end Environment

end MoveBindings
