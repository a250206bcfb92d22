import MoveBindings.Proofs.Emission.AliasOrder
import MoveBindings.Proofs.Emission.Collisions
import MoveBindings.Proofs.Lists

/-!
# What the index of a package lists

The index of a package lists its modules, then its alias files in the order of
the modules, then the classes that are placed in it. What is listed depends on
the declarations only, and each file of a run is listed in the index of its
package, is an index itself, or is a class in a package that is not declared.
-/

namespace MoveBindings

open TypeScript

namespace Environment

/-- The package in which the class of a container is placed. -/
def classPackage (env : Environment) (container : Container) : String :=
  env.packageFor (env.nameOf container).moduleId

/-- The name under which an index lists the class of a container. -/
def classChild (env : Environment) (container : Container) : String :=
  (env.nameOf container).module ++ ".accessors"

/-- The path at which the class of a container is placed. -/
def classPath (env : Environment) (container : Container) : String :=
  inPackage (env.classPackage container) (env.classChild container) ++ ".ts"

/-- The names under which the index of a package lists the alias files of its modules. -/
def tableChildren (env : Environment) (package : Package) : List String :=
  (package.modules.filter (Module.hasContainerFields env.settings)).map
    fun module => module.id.name ++ ".tables"

/-- The names under which the index of a package lists the classes that are placed in it. -/
def classChildren (env : Environment) (catalog : Catalog) (package : Package) : List String :=
  (Container.all.filter fun container =>
    catalog.Uses env.settings container ∧ env.classPackage container = package.name).map
      env.classChild

/-- The names under which the index of a package lists its children. -/
def children (env : Environment) (catalog : Catalog) (package : Package) : List String :=
  package.modules.map (fun module => module.id.name) ++
    (env.tableChildren package ++ env.classChildren catalog package)

variable {env : Environment} {catalog : Catalog} {names : Container → QualifiedName}
  {aliases : List PackageAliases}

/-- Alias files are listed in the order of the modules. -/
theorem MakesAll.map_stem (made : env.MakesAll catalog aliases) {result : PackageAliases}
    (member : result ∈ aliases) :
    result.modules.map ModuleAliases.stem = env.tableChildren result.package := by
  obtain ⟨package, _, h⟩ := exists_element made member
  obtain ⟨results, each, rfl⟩ := outcome_packageAliases_eq_ok_iff.mp h
  refine map_eq_map ((aliasFiles_of_modules each).imp fun module file makes => ?_)
  cases makes with
  | some => rfl

/-- Beside its modules the index of a package lists its alias files and the classes that are placed
in it. -/
theorem WellPlaced.companions_eq (w : env.WellPlaced catalog) (made : env.MakesAll catalog aliases)
    {result : PackageAliases} (member : result ∈ aliases) :
    companions result (env.classesFor env.nameOf aliases) =
      env.tableChildren result.package ++ env.classChildren catalog result.package := by
  rw [companions, made.map_stem member, w.map_stem_classesFor made]
  rfl

theorem classPath_eq (env : Environment) (container : Container) :
    (env.classFileAt env.nameOf container).file.path = env.classPath container := by
  rw [path_classFileAt, classPath, classChild, classPackage]
  simp only [inPackage, String.append_assoc]
  rfl

/-- The names of files in an index have a dot in them. -/
theorem dot_mem_of_mem_fileChildren {package : Package} {name : String}
    (found : name ∈ env.tableChildren package ++ env.classChildren catalog package) :
    '.' ∈ name.toList := by
  rcases List.mem_append.mp found with table | ofClass
  · obtain ⟨module, _, rfl⟩ := List.mem_map.mp table
    simp
  · obtain ⟨container, _, rfl⟩ := List.mem_map.mp ofClass
    simp [classChild]

namespace Run

/-- The index of a package imports and exports its children from beside it. -/
theorem map_source_exports_indexAt (w : env.WellPlaced catalog) (run : Run env catalog env.nameOf)
    {result : PackageAliases} (member : result ∈ run.aliases) :
    (env.indexAt run.classes result).source.exports.map Link.source =
      (env.children catalog result.package).map ("./" ++ ·) := by
  rw [indexAt, exports_packageScript, packageChildren, classes, w.companions_eq run.makesAll member,
    children]
  simp only [List.map_append, List.map_map]
  rfl

theorem map_source_imports_indexAt (w : env.WellPlaced catalog) (run : Run env catalog env.nameOf)
    {result : PackageAliases} (member : result ∈ run.aliases) :
    (env.indexAt run.classes result).source.imports.map Link.source =
      env.settings.runtimeModule :: (env.children catalog result.package).map ("./" ++ ·) := by
  rw [indexAt, imports_packageScript, packageChildren, classes, w.companions_eq run.makesAll member,
    children]
  simp only [List.map_append, List.map_map, List.map_cons]
  rfl

/-- No index lists a child twice. -/
theorem children_nodup (w : env.WellPlaced catalog) (run : Run env catalog env.nameOf)
    {package : Package} (declared : package ∈ catalog.packages) :
    (env.children catalog package).Nodup := by
  rw [← run.map_package] at declared
  obtain ⟨result, member, rfl⟩ := List.mem_map.mp declared
  have modulesOnce := run.modulesOnce result member
  have companionsOnce := run.companionsOnce result member
  rw [List.map_map] at modulesOnce
  rw [w.companions_eq run.makesAll member] at companionsOnce
  refine List.nodup_append.mpr ⟨modulesOnce, companionsOnce, ?_⟩
  rintro _ ofModule name ofFile rfl
  obtain ⟨module, inModules, rfl⟩ := List.mem_map.mp ofModule
  have identifier := w.declared.module _ (run.package_mem member) module inModules
  exact identifier.no_dot (dot_mem_of_mem_fileChildren ofFile)

/-- The paths of a package's files: those of its alias files, and that of its index. -/
theorem map_path_packageSources_eq (run : Run env catalog names) {result : PackageAliases}
    (member : result ∈ run.aliases) :
    (run.packageSources result).map SourceAt.path =
      (env.tableChildren result.package).map
          (fun name => inPackage result.package.name name ++ ".ts") ++
        [IndexFile.packagePath result.package.name] := by
  rw [run.map_path_packageSources member, ← run.makesAll.map_stem member, packagePath_eq,
    List.map_map, List.map_map]
  congr 1
  refine List.map_congr_left fun file _ => ?_
  simp only [Function.comp_apply, ModuleAliases.stem, inPackage, String.append_assoc]
  rfl

/-- All paths of a run, in order. -/
theorem map_path_sources_eq (run : Run env catalog env.nameOf) :
    run.sources.map SourceAt.path =
      (catalog.packages.flatMap fun package =>
        (env.tableChildren package).map (fun name => inPackage package.name name ++ ".ts") ++
          [IndexFile.packagePath package.name]) ++
      (Container.all.filter fun container => catalog.Uses env.settings container).map
        env.classPath ++ [IndexFile.projectPath] := by
  have packages : (run.aliases.flatMap run.packageSources).map SourceAt.path = _ :=
    (List.map_flatMap).trans <| List.flatMap_congr fun result member =>
      run.map_path_packageSources_eq member
  have files : run.classes.map (fun c => c.file.path) =
      (usedContainers run.aliases).map env.classPath := by
    rw [classes, classesFor, List.map_map]
    exact List.map_congr_left fun container _ => classPath_eq env container
  rw [run.map_path_sources, packages, files, run.makesAll.usedContainers_eq, ← run.map_package,
    List.flatMap_map]
  rfl

/-- The index of a package lies at its own path, and no other file does. -/
theorem filter_packagePath (w : env.WellPlaced catalog) (run : Run env catalog env.nameOf)
    {result : PackageAliases} (member : result ∈ run.aliases) :
    run.sources.filter (fun file => file.path == IndexFile.packagePath result.package.name) =
      [env.indexAt run.classes result] := by
  have once := run.packagesPaths_nodup w.reachable.names_nodup
    fun package declared => (w.declared.package package declared).no_slash
  have found : env.indexAt run.classes result ∈ run.aliases.flatMap run.packageSources :=
    List.mem_flatMap.mpr ⟨result, member, by simp [packageSources]⟩
  have here := filter_key_eq_singleton once found
  have noClass : (run.classes.map ClassFile.file).filter
      (fun file => file.path == IndexFile.packagePath result.package.name) = [] := by
    rw [List.filter_eq_nil_iff]
    intro file inClasses same
    rw [classes, classesFor, List.map_map] at inClasses
    obtain ⟨container, _, rfl⟩ := List.mem_map.mp inClasses
    rw [Function.comp_apply, path_classFileAt, packagePath_eq, inPackage, inPackage,
      ← String.append_assoc, beq_iff_eq] at same
    exact append_ne_append (by decide) _ _ same
  have notProject :
      ¬(IndexFile.projectPath == IndexFile.packagePath result.package.name) = true := by
    have noSlash : '/' ∉ IndexFile.projectPath.toList := by decide
    rw [packagePath_eq, beq_iff_eq]
    exact (inPackage_ne_of_no_slash noSlash).symm
  rw [sources, List.filter_append, List.filter_append, noClass, List.filter_cons,
    if_neg notProject, List.append_nil, List.filter_nil, List.append_nil]
  exact here

/-- Each file of a run is an index, or is listed in the index of its package, or is a class in a
package that is not declared. -/
theorem mem_paths_iff (run : Run env catalog env.nameOf) {path : String} :
    path ∈ run.sources.map SourceAt.path ↔
      path = IndexFile.projectPath ∨
      (∃ package ∈ catalog.packages, path = IndexFile.packagePath package.name) ∨
      (∃ package ∈ catalog.packages,
        ∃ name ∈ env.tableChildren package ++ env.classChildren catalog package,
          path = inPackage package.name name ++ ".ts") ∨
      ∃ container, catalog.Uses env.settings container ∧
        env.classPackage container ∉ catalog.names ∧ path = env.classPath container := by
  simp only [run.map_path_sources_eq, List.mem_append, List.mem_flatMap, List.mem_map,
    List.mem_filter, List.mem_singleton, decide_eq_true_eq, tableChildren, classChildren]
  constructor
  · rintro ((⟨package, declared, ⟨name, table, rfl⟩ | rfl⟩ | ⟨container, ⟨tried, used⟩, rfl⟩) | rfl)
    · exact .inr (.inr (.inl ⟨package, declared, name, .inl table, rfl⟩))
    · exact .inr (.inl ⟨package, declared, rfl⟩)
    · by_cases listed : env.classPackage container ∈ catalog.names
      · obtain ⟨package, declared, named⟩ := List.mem_map.mp listed
        refine .inr (.inr (.inl ⟨package, declared, env.classChild container, .inr ?_, ?_⟩))
        · exact ⟨container, ⟨tried, used, named.symm⟩, rfl⟩
        · rw [named, classPath]
      · exact .inr (.inr (.inr ⟨container, used, listed, rfl⟩))
    · exact .inl rfl
  · rintro (rfl | ⟨package, declared, rfl⟩ | ⟨package, declared, name, table | ofClass, rfl⟩ |
      ⟨container, used, _, rfl⟩)
    · exact .inr rfl
    · exact .inl (.inl ⟨package, declared, .inr rfl⟩)
    · exact .inl (.inl ⟨package, declared, .inl ⟨name, table, rfl⟩⟩)
    · obtain ⟨container, ⟨tried, used, here⟩, rfl⟩ := ofClass
      refine .inl (.inr ⟨container, ⟨tried, used⟩, ?_⟩)
      rw [classPath, here]
    · exact .inl (.inr ⟨container, ⟨Container.mem_all container, used⟩, rfl⟩)

end Run

end Environment

end MoveBindings
