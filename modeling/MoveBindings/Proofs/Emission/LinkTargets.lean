import MoveBindings.Proofs.Emission.Places

/-!
# What the imports of a run point at

A relative import resolves to a file of the run, to the directory of a package
or to the bindings of a module. Bindings are made elsewhere: they are those of a
declared module, or, for the modules that classes of containers refer to, they
may also be expected in the standard package.
-/

namespace MoveBindings

open TypeScript

/-- Whether a link leads to another file of the project, and not to a library. -/
def TypeScript.Link.IsRelative (link : Link) : Prop := link.source.toList.head? = some '.'

/-- Whether settings name the libraries, instead of giving paths to them. -/
structure Settings.NamesLibraries (settings : Settings) : Prop where
  runtime : settings.runtimeModule.toList.head? ≠ some '.'
  client : settings.clientModule.toList.head? ≠ some '.'

/-- What a relative link may point at, where files have the given paths. -/
inductive LinkTarget (settings : Settings) (catalog : Catalog) (paths : List String) :
    Path → Prop where
  | file {stem : String} (returned : stem ++ ".ts" ∈ paths) :
      LinkTarget settings catalog paths (Path.ofString stem)
  | package {package : Package} (declared : package ∈ catalog.packages) :
      LinkTarget settings catalog paths (Path.ofString package.name)
  | bindings {package : Package} {module : Module} (declared : package ∈ catalog.packages)
      (listed : module ∈ package.modules) :
      LinkTarget settings catalog paths (Path.ofString (inPackage package.name module.id.name))
  | containerModule {container : Container} {name : QualifiedName}
      (configured : QualifiedName.read (container.configuredName settings) = .ok name)
      (absent : ∀ package ∈ catalog.packages, package.lists name.moduleId = false) :
      LinkTarget settings catalog paths
        (Path.ofString (inPackage settings.stdPackage name.module))
  | optionModule {name : QualifiedName}
      (configured : QualifiedName.read settings.iterableTableName = .ok name)
      (absent : ∀ package ∈ catalog.packages,
        package.lists ⟨name.address, Environment.optionModule⟩ = false) :
      LinkTarget settings catalog paths
        (Path.ofString (inPackage settings.stdPackage Environment.optionModule))

namespace Environment.WellNamed

variable {env : Environment} {catalog : Catalog} {names : Container → QualifiedName}
variable {paths : List String}

theorem packageFor_isEntry (w : env.WellNamed catalog names) (id : ModuleId) :
    Path.IsEntry (env.packageFor id) :=
  (w.wellPlaced.packageFor_isMoveIdentifier id).isEntry

theorem optionModule_isMoveIdentifier : IsMoveIdentifier optionModule := by decide

/-- Imports of library names are not relative. -/
theorem not_isRelative_of_mem_libraryLinks (libraries : env.settings.NamesLibraries)
    {imported : List String} {link : Link} (member : link ∈ env.libraryLinks imported) :
    ¬link.IsRelative := by
  intro relative
  cases (mem_libraryLinks member).1 with
  | inl client => exact libraries.client (client ▸ relative)
  | inr runtime => exact libraries.runtime (runtime ▸ relative)

/-- The bindings of a listed module are those of a declared module. -/
theorem linkTarget_of_lists {id : ModuleId} {package : Package}
    (declared : package ∈ catalog.packages) (named : package.name = env.packageFor id)
    (listed : package.lists id = true) :
    LinkTarget env.settings catalog paths (Path.ofString (env.bindingsAt id)) := by
  obtain ⟨module, member, rfl⟩ := List.mem_map.mp (Package.lists_eq_true_iff.mp listed)
  rw [bindingsAt, ← named]
  exact .bindings declared member

/-- The bindings of a known module can be pointed at. -/
theorem linkTarget_of_contains (w : env.WellNamed catalog names) {id : ModuleId}
    (known : env.modules.contains id = true) :
    LinkTarget env.settings catalog paths (Path.ofString (env.bindingsAt id)) := by
  obtain ⟨package, declared, named, listed⟩ := w.wellPlaced.exists_package_of_contains known
  exact linkTarget_of_lists declared named listed

/-- The bindings of a container's module can be pointed at. -/
theorem linkTarget_container (w : env.WellNamed catalog names) (container : Container) :
    LinkTarget env.settings catalog paths
      (Path.ofString (env.bindingsAt (names container).moduleId)) := by
  rcases w.wellPlaced.listed_or_standard (names container).moduleId with
    ⟨package, declared, named, listed⟩ | ⟨standard, absent⟩
  · exact linkTarget_of_lists declared named listed
  · rw [bindingsAt, standard]
    have configured : QualifiedName.read (container.configuredName env.settings) =
        .ok (names container) := by
      rw [w.configured, (w.containers container).read_text]
    exact .containerModule configured absent

/-- The bindings of the module of links can be pointed at. -/
theorem linkTarget_option (w : env.WellNamed catalog names) :
    LinkTarget env.settings catalog paths
      (Path.ofString (env.bindingsAt ⟨(names .iterableTable).address, optionModule⟩)) := by
  rcases w.wellPlaced.listed_or_standard ⟨(names .iterableTable).address, optionModule⟩ with
    ⟨package, declared, named, listed⟩ | ⟨standard, absent⟩
  · exact linkTarget_of_lists declared named listed
  · rw [bindingsAt, standard]
    have configured : QualifiedName.read env.settings.iterableTableName =
        .ok (names .iterableTable) := by
      rw [← (w.containers .iterableTable).read_text, ← w.configured .iterableTable]
      rfl
    exact .optionModule configured absent

/-- The name of a known module is an identifier. -/
theorem name_isMoveIdentifier (w : env.WellNamed catalog names) {id : ModuleId}
    (known : env.modules.contains id = true) : IsMoveIdentifier id.name := by
  obtain ⟨package, declared, _, listed⟩ := w.wellPlaced.exists_package_of_contains known
  obtain ⟨module, member, rfl⟩ := List.mem_map.mp (Package.lists_eq_true_iff.mp listed)
  exact w.declared.module package declared module member

theorem configuredName_ne_empty (w : env.WellNamed catalog names) (container : Container) :
    container.configuredName env.settings ≠ "" := by
  rw [w.configured]
  simp [QualifiedName.text]

/-- The class of a container in use is a file of the run. -/
theorem class_mem_sources (run : Run env catalog names) {container : Container}
    (used : container ∈ usedContainers run.aliases) :
    (env.classFileAt names container).file ∈ run.sources :=
  run.mem_sources_iff.mpr (.inr (.inr (.inl ⟨container, used, rfl⟩)))

/-- The class of a container in use can be pointed at. -/
theorem linkTarget_class (run : Run env catalog names) {container : Container}
    (used : container ∈ usedContainers run.aliases) :
    LinkTarget env.settings catalog (run.sources.map SourceAt.path)
      (Path.ofString (env.classAt (names container))) :=
  .file (List.mem_map_of_mem (class_mem_sources run used))

/-- The source for a class resolves to where the class lies. -/
theorem resolve_class (w : env.WellNamed catalog names) {package entry : String}
    (directory : Path.IsEntry package) (file : Path.IsEntry entry) (container : Container) :
    Path.resolve (Path.ofString (inPackage package entry))
        (importSource (inPackage package entry) (env.classAt (names container))) =
      Path.ofString (env.classAt (names container)) :=
  resolve_importSource_inPackage directory file (w.packageFor_isEntry _)
    ((w.containers container).module.isEntry_append (by decide))

/-- The source for the bindings of a module resolves to them. -/
theorem resolve_bindings (w : env.WellNamed catalog names) {package entry : String}
    (directory : Path.IsEntry package) (file : Path.IsEntry entry) {id : ModuleId}
    (named : IsMoveIdentifier id.name) :
    Path.resolve (Path.ofString (inPackage package entry))
        (importSource (inPackage package entry) (env.bindingsAt id)) =
      Path.ofString (env.bindingsAt id) :=
  resolve_importSource_inPackage directory file (w.packageFor_isEntry id) named.isEntry

/-- An alias file imports library names, classes of the containers it uses, and modules. -/
theorem exists_links_of_mem (w : env.WellNamed catalog names) (run : Run env catalog names)
    {aliases : PackageAliases} (member : aliases ∈ run.aliases) {result : ModuleAliases}
    (found : result ∈ aliases.modules) :
    ∃ fields, result.containers = fields.map ContainerField.container ∧
      result.file.source.imports =
        env.libraryLinks ((AliasFile.tags fields).flatMap libraryTypes) ++
          env.classLinksAt names result.file.path fields ++
          env.moduleLinks result.file.path (AliasFile.tags fields) ∧
      result.file.source.exports = [] := by
  obtain ⟨module, _, made⟩ := run.makesAliases_of_mem member found
  cases made with
  | some fieldsFound _ made =>
    exact ⟨_, rfl, w.links_of_aliasSource
      (fun field => qualifiedName_of_mem fieldsFound w.configuredName_ne_empty) made⟩

/-- The classes that an alias file imports from one place are in use and lie there. -/
theorem resolve_classLink (w : env.WellNamed catalog names) (run : Run env catalog names)
    {aliases : PackageAliases} (member : aliases ∈ run.aliases) {result : ModuleAliases}
    (found : result ∈ aliases.modules) {fields : List ContainerField}
    (containers : result.containers = fields.map ContainerField.container) {link : Link}
    (classLink : link ∈ env.classLinksAt names result.file.path fields) :
    ∃ container ∈ usedContainers run.aliases,
      Path.resolve (Path.ofString result.file.path) link.source =
        Path.ofString (env.classAt (names container)) ∧
      ∃ imported, link.binding = .names imported ∧ ∀ className ∈ imported,
        ∃ other ∈ usedContainers run.aliases, other.className = className ∧
          env.classAt (names other) = env.classAt (names container) := by
  have used : ∀ field ∈ fields, field.container ∈ usedContainers run.aliases := by
    intro field inFields
    have inResult : field.container ∈ result.containers :=
      containers ▸ List.mem_map_of_mem inFields
    exact run.mem_usedContainers member found inResult
  have directory := (w.declared.package _ (run.package_mem member)).isEntry
  have file := (run.moduleName_of_mem w member found).isEntry_tables
  obtain ⟨field, inFields, source, imported, binding, declares⟩ :=
    exists_field_of_mem_classLinksAt classLink
  refine ⟨field.container, used field inFields, ?_, imported, binding, ?_⟩
  · rw [source, run.path_of_mem member found, w.resolve_class directory file]
  · intro className named
    obtain ⟨other, inOthers, class_eq, place⟩ := declares className named
    exact ⟨other.container, used other inOthers, class_eq, place⟩

/-- The relative links of an alias file point at classes and at bindings of known modules. -/
theorem linkTarget_of_aliasFile (w : env.WellNamed catalog names)
    (libraries : env.settings.NamesLibraries) (run : Run env catalog names)
    {aliases : PackageAliases} (member : aliases ∈ run.aliases) {result : ModuleAliases}
    (found : result ∈ aliases.modules) {link : Link}
    (has : link ∈ result.file.source.imports ++ result.file.source.exports)
    (relative : link.IsRelative) :
    LinkTarget env.settings catalog (run.sources.map SourceAt.path)
      (Path.resolve (Path.ofString result.file.path) link.source) := by
  have directory := (w.declared.package _ (run.package_mem member)).isEntry
  have file := (run.moduleName_of_mem w member found).isEntry_tables
  obtain ⟨fields, containers, imports, exports⟩ := w.exists_links_of_mem run member found
  rw [imports, exports, List.append_nil, List.mem_append, List.mem_append] at has
  rcases has with (library | classLink) | moduleLink
  · exact absurd relative (not_isRelative_of_mem_libraryLinks libraries library)
  · obtain ⟨container, used, resolves, _⟩ :=
      w.resolve_classLink run member found containers classLink
    rw [resolves]
    exact linkTarget_class run used
  · obtain ⟨id, inModules, rfl⟩ := List.mem_map.mp moduleLink
    have known := contains_of_mem_modulesOf inModules
    rw [run.path_of_mem member found,
      w.resolve_bindings directory file (w.name_isMoveIdentifier known)]
    exact w.linkTarget_of_contains known

/-- The relative links of a class point at the module of its container and at the module of
links. -/
theorem linkTarget_of_classFile (w : env.WellNamed catalog names)
    (libraries : env.settings.NamesLibraries) (container : Container) {link : Link}
    (has : link ∈ (env.classFileAt names container).file.source.imports ++
      (env.classFileAt names container).file.source.exports)
    (relative : link.IsRelative) :
    LinkTarget env.settings catalog paths
      (Path.resolve (Path.ofString (env.classFileAt names container).file.path) link.source) := by
  have directory := w.packageFor_isEntry (names container).moduleId
  have named := (w.containers container).module
  have file := named.isEntry_accessors
  rw [path_classFileAt]
  simp only [classFileAt, imports_classScript, exports_classScript, List.append_nil] at has
  rcases List.mem_append.mp has with basic | option
  · rw [classImports, List.cons_append, List.mem_cons, List.mem_append, List.mem_singleton]
      at basic
    rcases basic with rfl | library | rfl
    · exact absurd relative libraries.runtime
    · exact absurd relative (not_isRelative_of_mem_libraryLinks libraries library)
    · rw [resolve_beside directory file named.isEntry]
      exact w.linkTarget_container container
  · cases container with
    | table => cases option
    | iterableTable =>
      cases List.mem_singleton.mp option
      have place : env.classAt (names .iterableTable) ++ ".ts" =
          inPackage (env.packageFor (names .iterableTable).moduleId)
            ((names .iterableTable).module ++ ".accessors.ts") :=
        path_classFileAt env names .iterableTable
      rw [place, w.resolve_bindings directory file optionModule_isMoveIdentifier]
      exact w.linkTarget_option

/-- A child of a package's index is a module or a file beside the modules. -/
theorem source_of_mem_packageChildren {modules : List ModuleId} {beside : List String}
    {child : Child} (member : child ∈ env.packageChildren modules beside) :
    (∃ module ∈ modules, child.source = "./" ++ module.name) ∨
      ∃ stem ∈ beside, child.source = "./" ++ stem := by
  cases List.mem_append.mp member with
  | inl ofModule =>
    obtain ⟨name, inNames, rfl⟩ := List.mem_map.mp ofModule
    obtain ⟨module, inModules, rfl⟩ := List.mem_map.mp inNames
    exact .inl ⟨module, inModules, rfl⟩
  | inr ofStem =>
    obtain ⟨stem, inStems, rfl⟩ := List.mem_map.mp ofStem
    exact .inr ⟨stem, inStems, rfl⟩

/-- A file that a package's index lists lies in the package, under its stem. -/
theorem path_of_mem_companions (w : env.WellNamed catalog names) (run : Run env catalog names)
    {aliases : PackageAliases} (member : aliases ∈ run.aliases) {stem : String}
    (listed : stem ∈ companions aliases run.classes) :
    Path.IsEntry stem ∧
      inPackage aliases.package.name stem ++ ".ts" ∈ run.sources.map SourceAt.path := by
  cases List.mem_append.mp listed with
  | inl ofAliases =>
    obtain ⟨result, found, rfl⟩ := List.mem_map.mp ofAliases
    have inSources := run.mem_sources_iff.mpr (.inl ⟨aliases, member, result, found, rfl⟩)
    refine ⟨(run.moduleName_of_mem w member found).isEntry_append (by decide), ?_⟩
    have place : inPackage aliases.package.name result.stem ++ ".ts" = result.file.path := by
      rw [run.path_of_mem member found]
      simp only [ModuleAliases.stem, inPackage, String.append_assoc]
      rfl
    rw [place]
    exact List.mem_map_of_mem inSources
  | inr ofClass =>
    obtain ⟨classFile, chosen, rfl⟩ := List.mem_map.mp ofClass
    obtain ⟨inClasses, here⟩ := List.mem_filter.mp chosen
    obtain ⟨container, used, rfl⟩ := List.mem_map.mp inClasses
    rw [w.wellPlaced.package_classFileAt, beq_iff_eq] at here
    rw [w.wellPlaced.stem_classFileAt, ← here]
    exact ⟨(w.containers container).module.isEntry_append (by decide),
      List.mem_map_of_mem (class_mem_sources run used)⟩

/-- The relative links of a package's index point at bindings of its modules and at files of the
run. -/
theorem linkTarget_of_index (w : env.WellNamed catalog names)
    (libraries : env.settings.NamesLibraries) (run : Run env catalog names)
    {aliases : PackageAliases} (member : aliases ∈ run.aliases) {link : Link}
    (has : link ∈ (env.indexAt run.classes aliases).source.imports ++
      (env.indexAt run.classes aliases).source.exports)
    (relative : link.IsRelative) :
    LinkTarget env.settings catalog (run.sources.map SourceAt.path)
      (Path.resolve (Path.ofString (env.indexAt run.classes aliases).path) link.source) := by
  have declared := run.package_mem member
  have directory := (w.declared.package _ declared).isEntry
  simp only [indexAt, imports_packageScript, exports_packageScript, List.cons_append,
    List.mem_cons, List.mem_append, or_self] at has
  rcases has with rfl | child
  · exact absurd relative libraries.runtime
  · obtain ⟨child, children, rfl⟩ := List.mem_map.mp child
    rw [indexAt, packagePath_eq]
    rcases source_of_mem_packageChildren children with ⟨id, ids, source⟩ | ⟨stem, stems, source⟩
    · obtain ⟨module, inModules, rfl⟩ := List.mem_map.mp ids
      have named := w.declared.module _ declared _ inModules
      rw [Child.link, source, resolve_beside directory isEntry_index named.isEntry]
      exact .bindings declared inModules
    · obtain ⟨proper, returned⟩ := w.path_of_mem_companions run member stems
      rw [Child.link, source, resolve_beside directory isEntry_index proper]
      exact .file returned

/-- The relative links of the project's index point at the directories of packages. -/
theorem linkTarget_of_projectIndex (w : env.WellNamed catalog names)
    (libraries : env.settings.NamesLibraries) {link : Link}
    (has : link ∈ (env.projectScript catalog.names).imports ++
      (env.projectScript catalog.names).exports)
    (relative : link.IsRelative) :
    LinkTarget env.settings catalog paths
      (Path.resolve (Path.ofString IndexFile.projectPath) link.source) := by
  simp only [imports_projectScript, exports_projectScript, List.cons_append, List.mem_cons,
    List.mem_append, or_self] at has
  rcases has with rfl | child
  · exact absurd relative libraries.runtime
  · obtain ⟨child, children, rfl⟩ := List.mem_map.mp child
    obtain ⟨name, inNames, rfl⟩ := List.mem_map.mp children
    obtain ⟨package, declared, rfl⟩ := List.mem_map.mp inNames
    have target := (w.declared.package package declared).isEntry
    rw [Child.link, packageEntry, IndexFile.projectPath, resolve_at_root isEntry_index target]
    exact .package declared

/-- Every relative link of a run points at something that exists or is made elsewhere. -/
theorem linkTarget_of_mem_sources (w : env.WellNamed catalog names)
    (libraries : env.settings.NamesLibraries) (run : Run env catalog names) {file : SourceAt}
    (member : file ∈ run.sources) {link : Link}
    (has : link ∈ file.source.imports ++ file.source.exports) (relative : link.IsRelative) :
    LinkTarget env.settings catalog (run.sources.map SourceAt.path)
      (Path.resolve (Path.ofString file.path) link.source) := by
  rcases run.mem_sources_iff.mp member with
    ⟨aliases, inRun, result, found, rfl⟩ | ⟨aliases, inRun, rfl⟩ | ⟨container, _, rfl⟩ | rfl
  · exact w.linkTarget_of_aliasFile libraries run inRun found has relative
  · exact w.linkTarget_of_index libraries run inRun has relative
  · exact w.linkTarget_of_classFile libraries container has relative
  · exact w.linkTarget_of_projectIndex libraries has relative

/-- A class that an alias file imports is declared where the import points at. -/
theorem exists_class_of_import (w : env.WellNamed catalog names) (run : Run env catalog names)
    {file : SourceAt} (member : file ∈ run.sources) {stem : String}
    (ending : file.path = stem ++ ".tables.ts") {link : Link} (has : link ∈ file.source.imports)
    {imported : List String} (binding : link.binding = .names imported) {container : Container}
    (named : container.className ∈ imported) :
    ∃ target, Path.resolve (Path.ofString file.path) link.source = Path.ofString target ∧
      ∃ declaring ∈ run.sources, declaring.path = target ++ ".ts" ∧
        (declaring.source.class? container.className).isSome = true := by
  obtain ⟨aliases, inRun, result, found, rfl⟩ := run.exists_of_tables member ending
  obtain ⟨fields, containers, imports, _⟩ := w.exists_links_of_mem run inRun found
  rw [imports, List.mem_append, List.mem_append] at has
  rcases has with (library | classLink) | moduleLink
  · obtain ⟨_, others, same, fromLibrary⟩ := mem_libraryLinks library
    cases binding.symm.trans same
    obtain ⟨tag, _, type⟩ := List.mem_flatMap.mp (fromLibrary _ named)
    have noType : container.className ∉ runtimeTypes ++ clientTypes := by
      cases container <;> decide
    exact absurd (mem_of_mem_libraryTypes type) noType
  · obtain ⟨container, _, resolves, others, same, declares⟩ :=
      w.resolve_classLink run inRun found containers classLink
    cases binding.symm.trans same
    obtain ⟨other, used, class_eq, place⟩ := declares _ named
    obtain rfl := Container.className_injective class_eq
    refine ⟨env.classAt (names container), resolves, _, class_mem_sources run used, ?_, ?_⟩
    · rw [← place]
      rfl
    · rw [classFileAt, class?_classScript]
      rfl
  · obtain ⟨id, _, rfl⟩ := List.mem_map.mp moduleLink
    cases binding

end Environment.WellNamed

end MoveBindings
