import MoveBindings.Proofs.Emission.Children
import MoveBindings.Proofs.Emission.ClassFiles
import MoveBindings.Proofs.Emission.Findings
import MoveBindings.Proofs.Project.Runs

/-!
# Every generated file is found through an index, or reported

In a project that is generated the class of a container is made once when the
container is in use, and not at all when it is not. The index of each package
lists its modules, its alias files and the classes placed in it, each once. What
is in no index are the classes in packages that are not declared, and exactly
these are reported; so is a traversal that nothing stops.
-/

namespace MoveBindings

open TypeScript

namespace Environment

variable {env : Environment} {catalog : Catalog}

/-- How the class of a container is reported when no index mentions it. -/
def unindexed (env : Environment) (container : Container) : Diagnostic :=
  ⟨.unindexedClass (container.configuredName env.settings), env.classPath container⟩

/-- What is reported about the class of a container that is in use. -/
def reports (env : Environment) (catalog : Catalog) (container : Container) : List Diagnostic :=
  env.endlessAt container (env.classPath container) ++
    if decide (env.classPackage container ∉ catalog.names) then [env.unindexed container] else []

/-- Diagnostics of a kind that is about classes are found among those about classes. -/
theorem filter_filter_isAboutClass {kind : Diagnostic → Bool}
    (about : ∀ d, kind d = true → d.isAboutClass = true) (found : List Diagnostic) :
    (found.filter Diagnostic.isAboutClass).filter kind = found.filter kind := by
  rw [List.filter_filter]
  refine List.filter_congr fun d _ => ?_
  rw [Bool.eq_iff_iff, Bool.and_eq_true]
  exact and_iff_left_of_imp (about d)

/-- The report of a class that no index mentions is the only one of its kind. -/
theorem filter_reports_unindexed (container : Container) :
    (env.reports catalog container).filter (fun d => d.finding.code == "W003") =
      if decide (env.classPackage container ∉ catalog.names) then [env.unindexed container]
      else [] := by
  unfold reports endlessAt
  split <;> split <;> rfl

theorem filter_reports_endless (container : Container) :
    (env.reports catalog container).filter (fun d => d.finding.code == "W001") =
      env.endlessAt container (env.classPath container) := by
  unfold reports endlessAt
  split <;> split <;> rfl

namespace Run

/-- What a run finds about classes, container by container. -/
theorem filter_found_eq (w : env.WellPlaced catalog) (run : Run env catalog env.nameOf) :
    (env.projectSources catalog).found.filter Diagnostic.isAboutClass =
      (Container.all.filter fun container => catalog.Uses env.settings container).flatMap
        (env.reports catalog) := by
  rw [run.filter_found w.known, classes, classesFor, run.makesAll.usedContainers_eq,
    List.flatMap_map]
  refine List.flatMap_congr fun container _ => ?_
  rw [aboutClass, w.package_classFileAt, classPath_eq, reports]
  simp only [decide_eq_true_eq]
  rfl

/-- A run reports the classes that are placed in packages that are not declared. -/
theorem filter_unindexed (w : env.WellPlaced catalog) (run : Run env catalog env.nameOf) :
    (env.projectSources catalog).found.filter (fun d => d.finding.code == "W003") =
      (Container.all.filter fun container => catalog.Uses env.settings container ∧
        env.classPackage container ∉ catalog.names).map env.unindexed := by
  have about : ∀ d : Diagnostic, (d.finding.code == "W003") = true → d.isAboutClass = true := by
    rintro ⟨finding, location⟩ code
    cases finding <;> first | rfl | cases code
  rw [← filter_filter_isAboutClass about, run.filter_found_eq w, List.filter_flatMap]
  simp only [filter_reports_unindexed]
  rw [flatMap_if, List.filter_filter]
  simp only [Bool.decide_and, Bool.and_comm]

/-- A run reports the class of the iterable table when its traversal has no guard. -/
theorem filter_endless (w : env.WellPlaced catalog) (run : Run env catalog env.nameOf) :
    (env.projectSources catalog).found.filter (fun d => d.finding.code == "W001") =
      ((run.sources.filter fun file => file.declares .iterableTable).filter
        SourceAt.hasUnguardedFetch).map
          fun file => ⟨.endlessTraversal Container.iterableTable.className, file.path⟩ := by
  have about : ∀ d : Diagnostic, (d.finding.code == "W001") = true → d.isAboutClass = true := by
    rintro ⟨finding, location⟩ code
    cases finding <;> first | rfl | cases code
  rw [← filter_filter_isAboutClass about, run.filter_found_eq w, List.filter_flatMap]
  simp only [filter_reports_endless]
  have only : (Container.all.filter fun container => catalog.Uses env.settings container).flatMap
      (fun container => env.endlessAt container (env.classPath container)) =
        if catalog.Uses env.settings .iterableTable then
          env.endlessAt .iterableTable (env.classPath .iterableTable)
        else [] := by
    have table : env.endlessAt .table (env.classPath .table) = [] := rfl
    simp only [Container.all, List.filter_cons, List.filter_nil, decide_eq_true_eq]
    split <;> split <;> simp [table]
  rw [only, run.filter_declares]
  split
  · have unguarded : (env.classFileAt env.nameOf .iterableTable).file.hasUnguardedFetch = true ↔
        env.settings.maxIterableEntries = none := by
      rw [hasUnguardedFetch_classFileAt, beq_self_eq_true, Bool.true_and, Option.isNone_iff_eq_none]
    rw [List.filter_cons, List.filter_nil, endlessAt]
    simp only [unguarded, true_and]
    split
    · rw [List.map_singleton, classPath_eq]
    · rfl
  · rfl

end Run

end Environment

namespace Project

/-- How the files of a project, its indexes and what is found on the way fit together. A container
in use has one class, at its place (`placed`, `classes`). Each package has one index, which imports
and exports its children from beside it, none of them twice (`indexes`, `once`). Every file is an
index, or a child in the index of its package, or a class in a package that is not declared
(`listed`), and such classes are in no index (`unlisted`). These classes are reported, and so is a
traversal without a guard (`unindexed`, `endless`). -/
structure IsWired (p : Project) (sources : List SourceAt) (found : List Diagnostic) : Prop where
  placed : ∀ container : Container, p.catalog.Uses p.settings container →
    p.environment.classFilePath (container.configuredName p.settings) =
      .ok (p.environment.classPath container)
  classes : ∀ container : Container,
    (sources.filter fun file => file.declares container).map SourceAt.path =
      if p.catalog.Uses p.settings container then [p.environment.classPath container] else []
  indexes : ∀ package ∈ p.catalog.packages, ∃ index,
    sources.filter (fun file => file.path == IndexFile.packagePath package.name) = [index] ∧
      index.source.exports.map Link.source =
        (p.environment.children p.catalog package).map ("./" ++ ·) ∧
      index.source.imports.map Link.source =
        p.settings.runtimeModule :: (p.environment.children p.catalog package).map ("./" ++ ·)
  once : ∀ package ∈ p.catalog.packages, (p.environment.children p.catalog package).Nodup
  listed : ∀ path, path ∈ sources.map SourceAt.path ↔
    path = IndexFile.projectPath ∨
    (∃ package ∈ p.catalog.packages, path = IndexFile.packagePath package.name) ∨
    (∃ package ∈ p.catalog.packages,
      ∃ name ∈ p.environment.tableChildren package ++
          p.environment.classChildren p.catalog package,
        path = inPackage package.name name ++ ".ts") ∨
    ∃ container, p.catalog.Uses p.settings container ∧
      p.environment.classPackage container ∉ p.catalog.names ∧
      path = p.environment.classPath container
  unlisted : ∀ container, p.catalog.Uses p.settings container →
    ((∀ package ∈ p.catalog.packages, ∀ name ∈ p.environment.children p.catalog package,
        inPackage package.name name ++ ".ts" ≠ p.environment.classPath container) ↔
      p.environment.classPackage container ∉ p.catalog.names)
  unindexed : found.filter (fun d => d.finding.code == "W003") =
    (Container.all.filter fun container => p.catalog.Uses p.settings container ∧
      p.environment.classPackage container ∉ p.catalog.names).map fun container =>
        ⟨.unindexedClass (container.configuredName p.settings), p.environment.classPath container⟩
  endless : found.filter (fun d => d.finding.code == "W001") =
    ((sources.filter fun file => file.declares .iterableTable).filter
      SourceAt.hasUnguardedFetch).map fun file =>
        ⟨.endlessTraversal Container.iterableTable.className, file.path⟩

/-- The files of a run are wired. -/
theorem isWired_of_run {p : Project} (w : p.environment.WellPlaced p.catalog)
    (run : Environment.Run p.environment p.catalog p.environment.nameOf) :
    p.IsWired run.sources (p.environment.projectSources p.catalog).found where
  placed := by
    intro container used
    have named := Environment.namesContainer_of_used run.makesAll
      (run.mem_usedContainers_iff.mpr used)
    exact Environment.classFilePath_of_named w.known named
  classes := by
    intro container
    rw [run.filter_declares]
    split
    · next used =>
      rw [List.map_singleton, Environment.classPath_eq]
      exact (if_pos used).symm
    · next unused => exact (if_neg unused).symm
  indexes := by
    intro package declared
    rw [← run.map_package] at declared
    obtain ⟨result, member, rfl⟩ := List.mem_map.mp declared
    exact ⟨_, run.filter_packagePath w member, run.map_source_exports_indexAt w member,
      run.map_source_imports_indexAt w member⟩
  once := by
    intro package declared
    exact run.children_nodup w declared
  listed := by
    intro path
    exact run.mem_paths_iff
  unlisted := by
    intro container used
    constructor
    · intro nowhere listed
      obtain ⟨package, declared, named⟩ := List.mem_map.mp listed
      have child : p.environment.classChild container ∈
          p.environment.classChildren p.catalog package :=
        List.mem_map_of_mem (List.mem_filter.mpr
          ⟨Container.mem_all container, decide_eq_true ⟨used, named.symm⟩⟩)
      refine nowhere package declared _ (List.mem_append_right _ (List.mem_append_right _ child)) ?_
      rw [Environment.classPath, named]
    · intro missing package declared name _ same
      have directory := (w.declared.package package declared).no_slash
      have ownDirectory := (w.packageFor_isMoveIdentifier
        (p.environment.nameOf container).moduleId).no_slash
      rw [Environment.classPath, String.append_left_inj] at same
      have here := ((inPackage_inj directory ownDirectory).mp same).1
      exact missing (List.mem_map.mpr ⟨package, declared, here⟩)
  unindexed := run.filter_unindexed w
  endless := run.filter_endless w

/-- In a project that is generated every file is found through an index, or reported. -/
theorem generated_files_wired {p : Project} (reachable : p.catalog.Reachable)
    (declared : p.catalog.HasMoveIdentifiers)
    (standard : IsMoveIdentifier p.settings.stdPackage) {files : List OutputFile}
    (generated : p.generate.1 = .ok files) :
    ∃ sources found, (p.environment.projectSources p.catalog).outcome = .ok sources ∧
      sources.mapM (fun file => p.environment.layOut file.path file.source) = .ok files ∧
      p.generate.2.log.entries = p.log.entries ++ found ∧ p.IsWired sources found := by
  have w : p.environment.WellPlaced p.catalog := ⟨rfl, reachable, declared, standard⟩
  obtain ⟨run, laidOut⟩ := exists_run_of_generate reachable generated
  have made := (Environment.projectSources_eq_ok_iff rfl reachable.names_nodup).mpr ⟨run, rfl⟩
  exact ⟨run.sources, _, made, laidOut, p.entries_generate, isWired_of_run w run⟩

/-- Both classes of a shop lie in the standard package, which it does not declare. -/
theorem generated_files_wired_shop :
    let p := shopProject ⟨"0x1", "IterableTable", "IterableTable"⟩
    ∃ sources found, p.generate.2.log.entries = found ∧ p.IsWired sources found ∧
      (found.filter fun d => d.finding.code == "W003").map Diagnostic.location =
        ["Std/Table.accessors.ts", "Std/IterableTable.accessors.ts"] := by
  intro p
  have standard : IsMoveIdentifier p.settings.stdPackage := by decide
  have succeeds : p.generate.1.isOk = true := by
    set_option maxRecDepth 10000 in decide
  obtain ⟨files, generated⟩ := exists_of_isOk succeeds
  obtain ⟨sources, found, _, _, entries, wired⟩ := generated_files_wired
    (shopProject_reachable _) (shopProject_declared _) standard generated
  refine ⟨sources, found, entries, wired, ?_⟩
  rw [wired.unindexed]
  decide

end Project

end MoveBindings
