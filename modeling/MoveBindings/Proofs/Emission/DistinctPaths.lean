import Mathlib.Data.List.Nodup
import MoveBindings.Proofs.Emission.Places

/-!
# When the files of a run have different paths

Packages have different names and modules of one package too, so alias files and
indexes never meet. Two classes of containers do when their containers lie in
modules of one name and of one package; nothing else can.
-/

namespace MoveBindings

/-- Whether a field of some module belongs to a container. -/
def Catalog.Uses (c : Catalog) (settings : Settings) (container : Container) : Prop :=
  ∃ package ∈ c.packages, ∃ module ∈ package.modules, ∃ struct ∈ module.structs,
    ∃ field ∈ struct.fields, container.claims settings field = true

instance (c : Catalog) (settings : Settings) (container : Container) :
    Decidable (c.Uses settings container) :=
  inferInstanceAs (Decidable (∃ package ∈ c.packages, ∃ module ∈ package.modules,
    ∃ struct ∈ module.structs, ∃ field ∈ struct.fields, container.claims settings field = true))

/-- The modules with alias files are some of the modules, in order. -/
theorem map_module_sublist {env : Environment} {package : String} {modules : List Module}
    {results : List (Option ModuleAliases)}
    (h : List.Forall₂ (MakesAliases env package) modules results) :
    ((results.filterMap id).map ModuleAliases.module).Sublist (modules.map Module.id) := by
  induction h with
  | nil => exact .slnil
  | cons made _ ih =>
    cases made with
    | none => exact .cons _ ih
    | some => exact .cons_cons _ ih

namespace Environment

variable {env : Environment} {catalog : Catalog} {names : Container → QualifiedName}

namespace MakesAll

variable {aliases : List PackageAliases}

/-- A container is in use for alias files when a field of the catalog belongs to it. -/
theorem mem_usedContainers_iff (made : env.MakesAll catalog aliases) {container : Container} :
    container ∈ usedContainers aliases ↔ catalog.Uses env.settings container := by
  rw [MoveBindings.mem_usedContainers_iff]
  constructor
  · rintro ⟨result, member, file, found, used⟩
    obtain ⟨module, inModules, makes⟩ := made.makesAliases_of_mem member found
    refine ⟨result.package, made.package_mem member, module, inModules, ?_⟩
    cases makes with
    | some fieldsFound _ _ =>
      rw [containers_of_moduleContainerFields fieldsFound] at used
      exact Container.mem_claimingModule_iff.mp used
  · rintro ⟨package, declared, module, inModules, claimed⟩
    obtain ⟨result, member, rfl, makes, makesAliases, kept⟩ := made.exists_aliases declared inModules
    have claims := Container.mem_claimingModule_iff.mpr claimed
    cases makesAliases with
    | none fieldsFound =>
      rw [← containers_of_moduleContainerFields fieldsFound] at claims
      cases claims
    | some fieldsFound _ _ =>
      rw [← containers_of_moduleContainerFields fieldsFound] at claims
      exact ⟨result, member, _, kept _ rfl, claims⟩

/-- The containers in use, in the order in which they are tried. -/
theorem usedContainers_eq (made : env.MakesAll catalog aliases) :
    usedContainers aliases =
      Container.all.filter fun container => catalog.Uses env.settings container := by
  refine List.filter_congr fun container tried => ?_
  rw [Bool.eq_iff_iff, decide_eq_true_eq, ← made.mem_usedContainers_iff, usedContainers,
    List.mem_filter, and_iff_right tried]

/-- The names of the modules with alias files are some of the names of modules, in order. -/
theorem moduleNames_sublist (made : env.MakesAll catalog aliases) {result : PackageAliases}
    (member : result ∈ aliases) :
    (result.modules.map fun file => file.module.name).Sublist
      ((result.package.modules.map Module.id).map ModuleId.name) := by
  obtain ⟨package, _, h⟩ := exists_element made member
  obtain ⟨results, each, rfl⟩ := outcome_packageAliases_eq_ok_iff.mp h
  have chosen := (map_module_sublist each).map ModuleId.name
  rwa [List.map_map] at chosen

end MakesAll

namespace Run

theorem mem_usedContainers_iff (run : Run env catalog names) {container : Container} :
    container ∈ usedContainers run.aliases ↔ catalog.Uses env.settings container :=
  run.makesAll.mem_usedContainers_iff

/-- No two alias files of a package belong to modules of one name. -/
theorem moduleNames_nodup (run : Run env catalog names) {aliases : PackageAliases}
    (member : aliases ∈ run.aliases) :
    (aliases.modules.map fun result => result.module.name).Nodup :=
  (run.makesAll.moduleNames_sublist member).nodup (run.modulesOnce _ member)

/-- The paths of a package's files. -/
theorem map_path_packageSources (run : Run env catalog names) {aliases : PackageAliases}
    (member : aliases ∈ run.aliases) :
    (run.packageSources aliases).map SourceAt.path =
      (aliases.modules.map fun result => result.module.name).map
          (fun name => inPackage aliases.package.name (name ++ ".tables.ts")) ++
        [inPackage aliases.package.name "index.ts"] := by
  rw [packageSources, List.map_append, List.map_map, List.map_map, List.map_singleton, indexAt,
    packagePath_eq]
  congr 1
  exact List.map_congr_left fun result found => run.path_of_mem member found

/-- No two files of one package have one path. -/
theorem packagePaths_nodup (run : Run env catalog names) {aliases : PackageAliases}
    (member : aliases ∈ run.aliases) :
    ((run.packageSources aliases).map SourceAt.path).Nodup := by
  have injective : Function.Injective
      fun name => inPackage aliases.package.name (name ++ ".tables.ts") := by
    intro first second same
    simpa [inPackage] using same
  rw [run.map_path_packageSources member]
  refine List.nodup_append.mpr ⟨(run.moduleNames_nodup member).map injective,
    List.nodup_singleton _, ?_⟩
  rintro _ table _ index rfl
  obtain ⟨name, _, same⟩ := List.mem_map.mp table
  rw [List.mem_singleton, ← same, inPackage, inPackage, ← String.append_assoc] at index
  exact append_ne_append (by decide) _ _ index

/-- The files of a package are entries of its directory, and none of them is a class. -/
theorem exists_entry_of_mem_packagePaths (run : Run env catalog names) {aliases : PackageAliases}
    (member : aliases ∈ run.aliases) {path : String}
    (found : path ∈ (run.packageSources aliases).map SourceAt.path) :
    ∃ entry, path = inPackage aliases.package.name entry ∧
      (entry = "index.ts" ∨
        ∃ result ∈ aliases.modules, entry = result.module.name ++ ".tables.ts") ∧
      ∀ stem, path ≠ stem ++ ".accessors.ts" := by
  rw [run.map_path_packageSources member, List.mem_append, List.mem_singleton, List.map_map]
    at found
  rcases found with table | rfl
  · obtain ⟨result, inResults, rfl⟩ := List.mem_map.mp table
    refine ⟨_, rfl, .inr ⟨result, inResults, rfl⟩, ?_⟩
    intro stem
    rw [Function.comp_apply, inPackage, ← String.append_assoc]
    exact append_ne_append (by decide) _ _
  · exact ⟨_, rfl, .inl rfl, append_ne_append (by decide) _⟩

/-- No two files of packages have one path. -/
theorem packagesPaths_nodup (run : Run env catalog names) (distinct : catalog.names.Nodup)
    (noSlash : ∀ package ∈ catalog.packages, '/' ∉ package.name.toList) :
    ((run.aliases.flatMap run.packageSources).map SourceAt.path).Nodup := by
  have names_nodup : (run.aliases.map fun aliases => aliases.package.name).Nodup := by
    have same : run.aliases.map (fun aliases => aliases.package.name) = catalog.names := by
      rw [Catalog.names, ← run.map_package, List.map_map]
      rfl
    rwa [same]
  rw [List.map_flatMap, List.nodup_flatMap]
  refine ⟨fun aliases member => run.packagePaths_nodup member, ?_⟩
  refine (List.pairwise_map.mp names_nodup).imp_of_mem ?_
  intro first second inFirst inSecond different path ofFirst ofSecond
  obtain ⟨entry, rfl, _⟩ := run.exists_entry_of_mem_packagePaths inFirst ofFirst
  obtain ⟨other, same, _⟩ := run.exists_entry_of_mem_packagePaths inSecond ofSecond
  have directory := noSlash _ (run.package_mem inFirst)
  have otherDirectory := noSlash _ (run.package_mem inSecond)
  exact different ((inPackage_inj directory otherDirectory).mp same).1

/-- The paths of classes are different unless both classes are in use and lie at one path. -/
theorem classPaths_nodup_iff (run : Run env catalog names) :
    (run.classes.map fun c => c.file.path).Nodup ↔
      ¬(Container.table ∈ usedContainers run.aliases ∧
        Container.iterableTable ∈ usedContainers run.aliases ∧
        env.classAt (names .table) = env.classAt (names .iterableTable)) := by
  rw [classes, classesFor, List.map_map,
    List.nodup_map_iff_inj_on (usedContainers_nodup run.aliases)]
  have path_eq (first second : Container) :
      (env.classFileAt names first).file.path = (env.classFileAt names second).file.path ↔
        env.classAt (names first) = env.classAt (names second) :=
    String.append_left_inj ".ts"
  simp only [Function.comp_apply, path_eq]
  constructor
  · rintro injective ⟨table, iterable, same⟩
    cases injective _ table _ iterable same
  · intro apart first inFirst second inSecond same
    cases first <;> cases second
    · rfl
    · exact absurd ⟨inFirst, inSecond, same⟩ apart
    · exact absurd ⟨inSecond, inFirst, same.symm⟩ apart
    · rfl

/-- A class has its own ending. -/
theorem exists_stem_of_mem_classPaths (run : Run env catalog names) {path : String}
    (found : path ∈ run.classes.map fun c => c.file.path) :
    ∃ stem, path = stem ++ ".accessors.ts" := by
  rw [classes, classesFor, List.map_map] at found
  obtain ⟨container, _, rfl⟩ := List.mem_map.mp found
  exact ⟨_, (path_classFileAt env names container).trans String.append_assoc.symm⟩

/-- The paths of a run: those of packages, of classes, and of the index of the project. -/
theorem map_path_sources (run : Run env catalog names) :
    run.sources.map SourceAt.path =
      (run.aliases.flatMap run.packageSources).map SourceAt.path ++
        (run.classes.map fun c => c.file.path) ++ ["index.ts"] := by
  simp only [sources, List.map_append, List.map_map, List.map_singleton]
  rfl

/-- The path of a package's file belongs to one package. -/
theorem exists_package_of_mem_packagesPaths (run : Run env catalog names) {path : String}
    (found : path ∈ (run.aliases.flatMap run.packageSources).map SourceAt.path) :
    ∃ aliases ∈ run.aliases, path ∈ (run.packageSources aliases).map SourceAt.path := by
  rw [List.map_flatMap] at found
  exact List.mem_flatMap.mp found

/-- The files of a run have different paths when its classes have. -/
theorem paths_nodup_of_classPaths (w : env.WellNamed catalog names) (run : Run env catalog names)
    (distinct : (run.classes.map fun c => c.file.path).Nodup) :
    (run.sources.map SourceAt.path).Nodup := by
  rw [map_path_sources]
  have packages := run.packagesPaths_nodup w.reachable.names_nodup
    fun package declared => (w.declared.package package declared).no_slash
  refine List.nodup_append.mpr ⟨List.nodup_append.mpr ⟨packages, distinct, ?_⟩,
    List.nodup_singleton _, ?_⟩
  · rintro path ofPackage _ ofClass rfl
    obtain ⟨aliases, member, found⟩ := run.exists_package_of_mem_packagesPaths ofPackage
    obtain ⟨_, _, _, other⟩ := run.exists_entry_of_mem_packagePaths member found
    obtain ⟨stem, path_eq⟩ := run.exists_stem_of_mem_classPaths ofClass
    exact other stem path_eq
  · rintro path found _ index rfl
    rw [List.mem_singleton] at index
    cases List.mem_append.mp found with
    | inl ofPackage =>
      obtain ⟨aliases, member, found⟩ := run.exists_package_of_mem_packagesPaths ofPackage
      obtain ⟨_, path_eq, _⟩ := run.exists_entry_of_mem_packagePaths member found
      exact inPackage_ne_of_no_slash (by decide) (path_eq.symm.trans index)
    | inr ofClass =>
      obtain ⟨stem, path_eq⟩ := run.exists_stem_of_mem_classPaths ofClass
      have bare : ("index.ts" : String) = "" ++ "index.ts" := rfl
      exact append_ne_append (by decide) _ _ ((path_eq.symm.trans index).trans bare)

/-- The files of a run have different paths unless two classes lie at one path. -/
theorem paths_nodup_iff (w : env.WellNamed catalog names) (run : Run env catalog names) :
    (run.sources.map SourceAt.path).Nodup ↔
      ¬(catalog.Uses env.settings .table ∧ catalog.Uses env.settings .iterableTable ∧
        env.classAt (names .table) = env.classAt (names .iterableTable)) := by
  rw [← run.mem_usedContainers_iff, ← run.mem_usedContainers_iff, ← run.classPaths_nodup_iff]
  constructor
  · intro distinct
    rw [map_path_sources] at distinct
    exact (List.nodup_append.mp (List.nodup_append.mp distinct).1).2.1
  · exact run.paths_nodup_of_classPaths w

/-- All paths of a run are relative paths in their plain form. -/
theorem isPlain_of_mem_paths (w : env.WellNamed catalog names) (run : Run env catalog names)
    {path : String} (found : path ∈ run.sources.map SourceAt.path) : Path.IsPlain path := by
  rw [map_path_sources, List.mem_append, List.mem_append, List.mem_singleton] at found
  rcases found with (ofPackage | ofClass) | rfl
  · obtain ⟨aliases, member, found⟩ := run.exists_package_of_mem_packagesPaths ofPackage
    obtain ⟨entry, rfl, kind, _⟩ := run.exists_entry_of_mem_packagePaths member found
    have directory := (w.declared.package _ (run.package_mem member)).isEntry
    refine isPlain_inPackage directory.toIsComponent ?_
    rcases kind with rfl | ⟨result, inResults, rfl⟩
    · exact isEntry_index.toIsComponent
    · exact (run.moduleName_of_mem w member inResults).isEntry_tables.toIsComponent
  · rw [classes, classesFor, List.map_map] at ofClass
    obtain ⟨container, _, rfl⟩ := List.mem_map.mp ofClass
    rw [Function.comp_apply, path_classFileAt]
    exact isPlain_inPackage (w.wellPlaced.packageFor_isMoveIdentifier _).isEntry.toIsComponent
      (w.containers container).module.isEntry_accessors.toIsComponent
  · exact isPlain_entry isEntry_index.toIsComponent

end Run

end Environment

end MoveBindings
