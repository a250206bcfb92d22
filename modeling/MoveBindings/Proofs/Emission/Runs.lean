import MoveBindings.Proofs.Emission.AliasSources
import MoveBindings.Proofs.Emission.ContainerFields
import MoveBindings.Proofs.Emission.Indexes

/-!
# Runs over a project

A run that succeeds finds container fields and makes alias files, package by
package. Everything else follows from these: which classes are needed, what each
index lists, and where each file lies. The files of a project are therefore a
function of the alias files.
-/

namespace MoveBindings

open TypeScript

/-- What a module contributes to a run: nothing, when it has no container fields, or else its
alias file. -/
inductive MakesAliases (env : Environment) (package : String) (module : Module) :
    Option ModuleAliases → Prop where
  | none (found : env.moduleContainerFields module = .ok []) :
      MakesAliases env package module none
  | some {fields : List ContainerField} {source : Script}
      (found : env.moduleContainerFields module = .ok fields) (used : fields ≠ [])
      (made : (env.aliasSource (AliasFile.path package module.id) fields).outcome = .ok source) :
      MakesAliases env package module
        (some ⟨module.id, ⟨AliasFile.path package module.id, source⟩,
          fields.map ContainerField.container⟩)

namespace Environment

theorem outcome_moduleAliases_eq_ok_iff {env : Environment} {package : String} {module : Module}
    {result : Option ModuleAliases} :
    (env.moduleAliases package module).outcome = .ok result ↔
      MakesAliases env package module result := by
  constructor
  · intro h
    obtain ⟨fields, found, h⟩ := Emission.outcome_bind_eq_ok_iff.mp h
    cases fields with
    | nil =>
      cases h
      exact .none found
    | cons field rest =>
      obtain ⟨⟨path, source⟩, made, h⟩ := Emission.outcome_bind_eq_ok_iff.mp h
      obtain ⟨source, made, same⟩ := Emission.outcome_bind_eq_ok_iff.mp made
      cases same
      cases h
      exact .some found (List.cons_ne_nil field rest) made
  · rintro (found | ⟨found, used, made⟩)
    · simp [moduleAliases, Emission.outcome_bind, found, ok_bind]
    · simp [moduleAliases, aliasFile, Emission.outcome_bind, found, ok_bind, used, made]

theorem outcome_packageAliases_eq_ok_iff {env : Environment} {package : Package}
    {result : PackageAliases} :
    (env.packageAliases package).outcome = .ok result ↔
      ∃ found, List.Forall₂ (MakesAliases env package.name) package.modules found ∧
        result = ⟨package, found.filterMap id⟩ := by
  simp only [packageAliases, Emission.outcome_bind_eq_ok_iff, Emission.outcome_mapM_eq_ok_iff,
    outcome_moduleAliases_eq_ok_iff, Emission.outcome_pure, Except.ok.injEq]
  exact exists_congr fun found => and_congr_right fun _ => eq_comm

/-- The index of a package with its alias files and the classes beside them. -/
def indexAt (env : Environment) (classes : List ClassFile) (aliases : PackageAliases) : SourceAt :=
  ⟨IndexFile.packagePath aliases.package.name,
    env.packageScript (aliases.package.modules.map Module.id) (companions aliases classes)⟩

/-- The files of a package are its alias files and its index, which it has when no module name and
no file name occurs twice. -/
theorem outcome_packageFiles_eq_ok_iff {env : Environment} {classes : List ClassFile}
    {aliases : PackageAliases} {files : List SourceAt} :
    (env.packageFiles classes aliases).outcome = .ok files ↔
      ((aliases.package.modules.map Module.id).map ModuleId.name).Nodup ∧
        (companions aliases classes).Nodup ∧
        files = aliases.modules.map ModuleAliases.file ++ [env.indexAt classes aliases] := by
  simp only [packageFiles, Emission.outcome_bind_eq_ok_iff, packageIndex_eq_ok_iff,
    Emission.outcome_pure, Except.ok.injEq]
  constructor
  · rintro ⟨_, ⟨modulesOnce, companionsOnce, rfl⟩, rfl⟩
    exact ⟨modulesOnce, companionsOnce, rfl⟩
  · rintro ⟨modulesOnce, companionsOnce, rfl⟩
    exact ⟨_, ⟨modulesOnce, companionsOnce, rfl⟩, rfl⟩

/-- The classes that a project needs for its alias files. -/
def classesFor (env : Environment) (names : Container → QualifiedName)
    (aliases : List PackageAliases) : List ClassFile :=
  (usedContainers aliases).map (env.classFileAt names)

/-- The alias files of all packages of a catalog are made. -/
def MakesAll (env : Environment) (catalog : Catalog) (aliases : List PackageAliases) : Prop :=
  List.Forall₂ (fun package result => (env.packageAliases package).outcome = .ok result)
    catalog.packages aliases

namespace MakesAll

variable {env : Environment} {catalog : Catalog} {aliases : List PackageAliases}

theorem map_package (made : env.MakesAll catalog aliases) :
    aliases.map PackageAliases.package = catalog.packages := by
  have same := map_eq_map (f := id) (g := PackageAliases.package) <|
    made.imp fun package result h => by
      obtain ⟨found, _, rfl⟩ := outcome_packageAliases_eq_ok_iff.mp h
      rfl
  rw [same, List.map_id]

/-- Alias files are made for the packages of the catalog. -/
theorem package_mem (made : env.MakesAll catalog aliases) {result : PackageAliases}
    (member : result ∈ aliases) : result.package ∈ catalog.packages :=
  made.map_package ▸ List.mem_map_of_mem member

/-- Each alias file is made from the fields of a module of its package. -/
theorem makesAliases_of_mem (made : env.MakesAll catalog aliases) {result : PackageAliases}
    (member : result ∈ aliases) {file : ModuleAliases} (found : file ∈ result.modules) :
    ∃ module ∈ result.package.modules,
      MakesAliases env result.package.name module (some file) := by
  obtain ⟨package, _, h⟩ := exists_element made member
  obtain ⟨results, each, rfl⟩ := outcome_packageAliases_eq_ok_iff.mp h
  exact exists_element each (by simpa using found)

/-- Conversely a module with container fields has its alias file. -/
theorem exists_aliases (made : env.MakesAll catalog aliases) {package : Package}
    (member : package ∈ catalog.packages) {module : Module} (found : module ∈ package.modules) :
    ∃ result ∈ aliases, result.package = package ∧ ∃ makes,
      MakesAliases env package.name module makes ∧ ∀ file, makes = some file →
        file ∈ result.modules := by
  obtain ⟨result, inAliases, h⟩ := exists_result made member
  obtain ⟨results, each, rfl⟩ := outcome_packageAliases_eq_ok_iff.mp h
  obtain ⟨makes, inResults, makesAliases⟩ := exists_result each found
  refine ⟨_, inAliases, rfl, makes, makesAliases, ?_⟩
  rintro file rfl
  simpa using inResults

end MakesAll

/-- The alias files that a run over a project makes, where all indexes can be made. -/
structure Run (env : Environment) (catalog : Catalog) (names : Container → QualifiedName) where
  aliases : List PackageAliases
  made : List.Forall₂ (fun package result => (env.packageAliases package).outcome = .ok result)
    catalog.packages aliases
  modulesOnce : ∀ result ∈ aliases,
    ((result.package.modules.map Module.id).map ModuleId.name).Nodup
  companionsOnce : ∀ result ∈ aliases,
    (companions result (env.classesFor names aliases)).Nodup

namespace Run

variable {env : Environment} {catalog : Catalog} {names : Container → QualifiedName}

/-- The classes of a run. -/
def classes (run : Run env catalog names) : List ClassFile := env.classesFor names run.aliases

/-- The files of one package in a run. -/
def packageSources (run : Run env catalog names) (aliases : PackageAliases) : List SourceAt :=
  aliases.modules.map ModuleAliases.file ++ [env.indexAt run.classes aliases]

/-- All files of a run. -/
def sources (run : Run env catalog names) : List SourceAt :=
  run.aliases.flatMap run.packageSources ++ run.classes.map ClassFile.file ++
    [⟨IndexFile.projectPath, env.projectScript catalog.names⟩]

/-- The files of all packages in a run can be made. -/
theorem outcome_mapM_packageFiles (run : Run env catalog names) :
    (run.aliases.mapM (env.packageFiles run.classes)).outcome =
      .ok (run.aliases.map run.packageSources) := by
  rw [Emission.outcome_mapM_eq_ok_iff, List.forall₂_map_right_iff, List.forall₂_same]
  exact fun result member => outcome_packageFiles_eq_ok_iff.mpr
    ⟨run.modulesOnce result member, run.companionsOnce result member, rfl⟩

theorem makesAll (run : Run env catalog names) : env.MakesAll catalog run.aliases := run.made

theorem map_package (run : Run env catalog names) :
    run.aliases.map PackageAliases.package = catalog.packages :=
  run.makesAll.map_package

theorem package_mem (run : Run env catalog names) {aliases : PackageAliases}
    (member : aliases ∈ run.aliases) : aliases.package ∈ catalog.packages :=
  run.makesAll.package_mem member

theorem makesAliases_of_mem (run : Run env catalog names) {aliases : PackageAliases}
    (member : aliases ∈ run.aliases) {result : ModuleAliases} (found : result ∈ aliases.modules) :
    ∃ module ∈ aliases.package.modules,
      MakesAliases env aliases.package.name module (some result) :=
  run.makesAll.makesAliases_of_mem member found

end Run

end Environment

/-- A container is in use when an alias file uses it. -/
theorem mem_usedContainers_iff {aliases : List PackageAliases} {container : Container} :
    container ∈ usedContainers aliases ↔
      ∃ package ∈ aliases, ∃ module ∈ package.modules, container ∈ module.containers := by
  simp [usedContainers, Container.mem_all]

/-- No container in use is listed twice. -/
theorem usedContainers_nodup (aliases : List PackageAliases) : (usedContainers aliases).Nodup := by
  have all : Container.all.Nodup := by decide
  exact all.filter _

namespace Environment

variable {env : Environment} {catalog : Catalog} {names : Container → QualifiedName}

/-- The containers of an alias file that is made have names that can be taken apart. -/
theorem namesContainer_of_makesAliases {package : String} {module : Module} {result : ModuleAliases}
    (made : MakesAliases env package module (some result)) {container : Container}
    (used : container ∈ result.containers) : env.NamesContainer container := by
  cases made with
  | some fieldsFound _ made =>
    obtain ⟨field, inFields, rfl⟩ := List.mem_map.mp used
    have claims := used
    rw [containers_of_moduleContainerFields fieldsFound] at claims
    obtain ⟨_, _, _, _, claimed⟩ := Container.mem_claimingModule_iff.mp claims
    obtain ⟨container, _, _, _, _, found⟩ := exists_containerField fieldsFound inFields
    obtain ⟨rfl, named⟩ := of_containerField found
    obtain ⟨_, _, made⟩ := Emission.outcome_bind_eq_ok_iff.mp made
    obtain ⟨links, classes, _⟩ := Emission.outcome_bind_eq_ok_iff.mp made
    obtain ⟨stems, located, _⟩ := exists_stems_of_classLinks classes
    obtain ⟨_, _, stem, _⟩ := exists_result located inFields
    rw [named (Container.configuredName_ne_empty claimed)] at stem
    obtain ⟨name, apart, _⟩ := exists_of_bind_eq_ok stem
    exact namesContainer_iff.mpr ⟨name, apart⟩

/-- The containers that alias files use have names that can be taken apart. -/
theorem namesContainer_of_used {aliases : List PackageAliases}
    (made : env.MakesAll catalog aliases) {container : Container}
    (used : container ∈ usedContainers aliases) : env.NamesContainer container := by
  obtain ⟨result, member, file, found, used⟩ := mem_usedContainers_iff.mp used
  obtain ⟨module, _, makes⟩ := made.makesAliases_of_mem member found
  exact namesContainer_of_makesAliases makes used

/-- The classes that a project needs for its alias files can be made. -/
theorem outcome_mapM_classFile (known : env.known = some catalog.packageOf)
    {aliases : List PackageAliases} (made : env.MakesAll catalog aliases) :
    ((usedContainers aliases).mapM (env.classFile catalog.names)).outcome =
      .ok (env.classesFor env.nameOf aliases) := by
  rw [Emission.outcome_mapM_eq_ok_iff, classesFor, List.forall₂_map_right_iff, List.forall₂_same]
  exact fun container used =>
    outcome_classFile_of_named known (namesContainer_of_used made used) catalog.names

/-- Generation succeeds exactly with the files of a run. -/
theorem projectSources_eq_ok_iff (known : env.known = some catalog.packageOf)
    (distinct : catalog.names.Nodup) {sources : List SourceAt} :
    (env.projectSources catalog).outcome = .ok sources ↔
      ∃ run : Run env catalog env.nameOf, sources = run.sources := by
  simp only [projectSources, Emission.outcome_bind_eq_ok_iff, projectIndex_eq_ok_iff,
    Emission.outcome_pure, Except.ok.injEq]
  constructor
  · rintro ⟨aliases, made, classes, classesMade, files, each, _, ⟨_, rfl⟩, rfl⟩
    rw [Emission.outcome_mapM_eq_ok_iff] at made each
    cases (outcome_mapM_classFile known made).symm.trans classesMade
    simp only [outcome_packageFiles_eq_ok_iff] at each
    let run : Run env catalog env.nameOf :=
      { aliases, made
        modulesOnce := fun result member => by
          obtain ⟨_, _, once, _⟩ := exists_result each member
          exact once
        companionsOnce := fun result member => by
          obtain ⟨_, _, _, once, _⟩ := exists_result each member
          exact once }
    have files_eq : files = run.aliases.map run.packageSources :=
      eq_map (each.imp fun _ _ step => step.2.2)
    refine ⟨run, ?_⟩
    rw [files_eq, ← List.flatMap_def]
    rfl
  · rintro ⟨run, rfl⟩
    refine ⟨run.aliases, Emission.outcome_mapM_eq_ok_iff.mpr run.made, _,
      outcome_mapM_classFile known run.makesAll, run.aliases.map run.packageSources,
      run.outcome_mapM_packageFiles, _, ⟨distinct, rfl⟩, ?_⟩
    rw [← List.flatMap_def]
    rfl

theorem WellNamed.projectSources_eq_ok_iff (w : env.WellNamed catalog names)
    {sources : List SourceAt} :
    (env.projectSources catalog).outcome = .ok sources ↔
      ∃ run : Run env catalog names, sources = run.sources := by
  rw [← w.nameOf_eq]
  exact Environment.projectSources_eq_ok_iff w.known w.reachable.names_nodup

end Environment

end MoveBindings
