import MoveBindings.Proofs.Emission.DistinctPaths
import MoveBindings.Proofs.Project.Runs

/-!
# Generated files and binding files

The bindings of a module lie beside the generated files of its package, and are
made elsewhere. The names of generated files have more parts than the names of
bindings, but for one: the index of a package lies where the bindings of a
module with that name lie.
-/

namespace MoveBindings

/-- The path of the bindings of a module. -/
def bindingFile (package : String) (name : String) : String := inPackage package (name ++ ".ts")

namespace IsMoveIdentifier

variable {name : String}

/-- An identifier is not continued by a dot. -/
theorem ne_append_dotted (h : IsMoveIdentifier name) {kind : String} (dotted : '.' ∈ kind.toList)
    (other : String) : name ++ ".ts" ≠ other ++ (kind ++ ".ts") := by
  intro same
  rw [← String.append_assoc, String.append_left_inj] at same
  apply h.no_dot
  rw [same, String.toList_append]
  exact List.mem_append_right other.toList dotted

end IsMoveIdentifier

namespace Environment

variable {env : Environment} {catalog : Catalog} {names : Container → QualifiedName}

namespace Run

/-- Of the files of packages only indexes lie where the bindings of a module do. -/
theorem bindingFile_mem_packagesPaths_iff (w : env.WellNamed catalog names)
    (run : Run env catalog names) {package : Package} (declared : package ∈ catalog.packages)
    {module : Module} (member : module ∈ package.modules) :
    bindingFile package.name module.id.name ∈
        (run.aliases.flatMap run.packageSources).map SourceAt.path ↔ module.id.name = "index" := by
  have directory := (w.declared.package package declared).no_slash
  have name := w.declared.module package declared module member
  have isIndex : module.id.name ++ ".ts" = "index.ts" ↔ module.id.name = "index" := by
    have shape : ("index.ts" : String) = "index" ++ ".ts" := rfl
    rw [shape, String.append_left_inj]
  constructor
  · intro found
    obtain ⟨aliases, inRun, found⟩ := run.exists_package_of_mem_packagesPaths found
    have otherDirectory := (w.declared.package _ (run.package_mem inRun)).no_slash
    rw [run.map_path_packageSources inRun, List.mem_append, List.mem_singleton, List.map_map]
      at found
    rcases found with table | index
    · obtain ⟨result, inResults, same⟩ := List.mem_map.mp table
      have entries := ((inPackage_inj otherDirectory directory).mp same).2
      exact absurd entries.symm (name.ne_append_dotted (by decide : '.' ∈ ".tables".toList) _)
    · have entries := ((inPackage_inj directory otherDirectory).mp index).2
      exact isIndex.mp entries
  · intro index
    have inRun : package ∈ run.aliases.map PackageAliases.package := run.map_package ▸ declared
    obtain ⟨aliases, inAliases, rfl⟩ := List.mem_map.mp inRun
    rw [List.map_flatMap, List.mem_flatMap]
    refine ⟨aliases, inAliases, ?_⟩
    rw [run.map_path_packageSources inAliases, bindingFile, isIndex.mpr index]
    exact List.mem_append_right _ (List.mem_singleton_self _)

/-- A class never lies where the bindings of a module do. -/
theorem bindingFile_not_mem_classPaths (w : env.WellNamed catalog names)
    (run : Run env catalog names) {package name : String} (directory : IsMoveIdentifier package)
    (proper : IsMoveIdentifier name) :
    bindingFile package name ∉ run.classes.map fun c => c.file.path := by
  intro ofClass
  rw [classes, classesFor, List.map_map] at ofClass
  obtain ⟨container, _, same⟩ := List.mem_map.mp ofClass
  rw [Function.comp_apply, path_classFileAt] at same
  have classDirectory :=
    (w.wellPlaced.packageFor_isMoveIdentifier (names container).moduleId).no_slash
  have entries := ((inPackage_inj classDirectory directory.no_slash).mp same).2
  exact proper.ne_append_dotted (by decide : '.' ∈ ".accessors".toList) _ entries.symm

/-- A file of a run lies where the bindings of a declared module do exactly when the module has the
name of indexes. -/
theorem bindingFile_mem_paths_iff (w : env.WellNamed catalog names)
    (run : Run env catalog names) {package : Package} (declared : package ∈ catalog.packages)
    {module : Module} (member : module ∈ package.modules) :
    bindingFile package.name module.id.name ∈ run.sources.map SourceAt.path ↔
      module.id.name = "index" := by
  have notClass := run.bindingFile_not_mem_classPaths w (w.declared.package package declared)
    (w.declared.module package declared module member)
  have notRoot : bindingFile package.name module.id.name ≠ "index.ts" :=
    inPackage_ne_of_no_slash (by decide)
  rw [map_path_sources, List.mem_append, List.mem_append, List.mem_singleton,
    or_iff_left notRoot, or_iff_left notClass]
  exact run.bindingFile_mem_packagesPaths_iff w declared member

end Run

end Environment

namespace Project

variable {p : Project} {table iterable : QualifiedName}

/-- When a project is generated, one of its files lies where the bindings of a declared module do
exactly when the module has the name of indexes. -/
theorem written_on_bindings_iff (settings : p.settings = .withContainers table iterable)
    (tableParts : table.HasMoveIdentifiers) (iterableParts : iterable.HasMoveIdentifiers)
    (reachable : p.catalog.Reachable) (declared : p.catalog.HasMoveIdentifiers)
    {files : List OutputFile} (generated : p.generate.1 = .ok files) :
    ∀ package ∈ p.catalog.packages, ∀ module ∈ package.modules,
      (package.name ++ "/" ++ module.id.name ++ ".ts" ∈ files.map OutputFile.path ↔
        module.id.name = "index") := by
  have w := wellNamed settings tableParts iterableParts reachable declared
  obtain ⟨sources, made, laidOut⟩ := generate_eq_ok_iff.mp generated
  obtain ⟨run, rfl⟩ := w.projectSources_eq_ok_iff.mp made
  intro package inCatalog module member
  have path : package.name ++ "/" ++ module.id.name ++ ".ts" =
      bindingFile package.name module.id.name := by
    rw [bindingFile, inPackage, String.append_assoc]
  rw [map_path_of_layOut laidOut, path, run.bindingFile_mem_paths_iff w inCatalog member]

/-- A package with a module that has the name of indexes. -/
def indexPackage : Package where
  name := "Shop"
  modules := [⟨⟨"0x2", "index"⟩, []⟩, ⟨⟨"0x2", "Market"⟩, []⟩]

/-- The project of this package alone, with standard settings. -/
def indexProject : Project where
  catalog :=
    { packages := [indexPackage]
      packageOf := .ofList [(⟨"0x2", "index"⟩, "Shop"), (⟨"0x2", "Market"⟩, "Shop")] }

theorem indexProject_reachable : indexProject.catalog.Reachable := by
  have added : Catalog.add {} indexPackage = .ok indexProject.catalog := rfl
  exact .add .empty added

theorem indexProject_declared : indexProject.catalog.HasMoveIdentifiers where
  package := by
    have shop : IsMoveIdentifier "Shop" := by decide
    simpa [indexProject, indexPackage] using shop
  module := by
    have names : IsMoveIdentifier "index" ∧ IsMoveIdentifier "Market" := by decide
    simpa [indexProject, indexPackage] using names

/-- The index of this package lies where the bindings of its first module do. -/
theorem written_on_bindings_iff_index :
    ∃ files, indexProject.generate.1 = .ok files ∧
      "Shop/index.ts" ∈ files.map OutputFile.path ∧
      "Shop/Market.ts" ∉ files.map OutputFile.path := by
  have succeeds : indexProject.generate.1.isOk = true := by
    set_option maxRecDepth 10000 in decide
  have standard : indexProject.settings = .withContainers ⟨"0x1", "Table", "Table"⟩
      ⟨"0x1", "IterableTable", "IterableTable"⟩ := by decide
  obtain ⟨files, generated⟩ := exists_of_isOk succeeds
  have written := written_on_bindings_iff standard (by decide) (by decide) indexProject_reachable
    indexProject_declared generated indexPackage (List.mem_singleton_self _)
  exact ⟨files, generated, (written _ (.head _)).mpr rfl,
    mt (written _ (.tail _ (.head _))).mp (by decide)⟩

end Project

end MoveBindings
