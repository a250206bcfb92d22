import MoveBindings.Proofs.Emission.DistinctPaths
import MoveBindings.Proofs.Emission.Repeats

/-!
# When an index lists a file twice

The files that a package's index lists beside the modules are alias files and
classes. Alias files of different modules have different names, and no alias
file has the name of a class. So a name can only repeat when the classes of both
containers lie at one path, and in this package.
-/

namespace MoveBindings

/-- Of the names of the two containers' files one repeats when they are the same and both listed. -/
theorem firstRepeated_containers_iff {listed : Container → Bool} {stem : Container → String}
    {name : String} :
    FirstRepeated ((Container.all.filter listed).map stem) name ↔
      (∀ container, listed container = true) ∧ ∀ container, stem container = name := by
  have both (property : Container → Prop) :
      (∀ container, property container) ↔ property .table ∧ property .iterableTable :=
    ⟨fun all => ⟨all _, all _⟩, fun ⟨table, iterable⟩ container => by
      cases container
      · exact table
      · exact iterable⟩
  rw [← IndexFile.firstRepeated?_nil_eq_some_iff, both, both, Container.all]
  cases table : listed .table <;> cases iterable : listed .iterableTable <;>
    simp [table, iterable, IndexFile.firstRepeated?]
  rintro rfl
  exact eq_comm

namespace Environment

variable {env : Environment} {catalog : Catalog} {aliases : List PackageAliases}

/-- Names of alias files repeat only when names of modules do, and are no names of classes. -/
theorem MakesAll.stems_nodup (made : env.MakesAll catalog aliases) {result : PackageAliases}
    (member : result ∈ aliases)
    (modulesOnce : ((result.package.modules.map Module.id).map ModuleId.name).Nodup) :
    (result.modules.map ModuleAliases.stem).Nodup := by
  have names := (made.moduleNames_sublist member).nodup modulesOnce
  have injective : Function.Injective (· ++ ".tables" : String → String) :=
    fun _ _ same => (String.append_left_inj _).mp same
  have stems := names.map injective
  rwa [List.map_map] at stems

/-- The classes that a package's index lists are those of the containers in use that are placed in
it. -/
theorem WellPlaced.map_stem_classesFor (w : env.WellPlaced catalog)
    (made : env.MakesAll catalog aliases) (names : Container → QualifiedName) (package : String) :
    ((env.classesFor names aliases).filter fun c => c.package == package).map ClassFile.stem =
      (Container.all.filter fun container => catalog.Uses env.settings container ∧
          env.packageFor (names container).moduleId = package).map
        fun container => (names container).module ++ ".accessors" := by
  rw [classesFor, List.filter_map, List.map_map, made.usedContainers_eq, List.filter_filter]
  simp only [Function.comp_def, w.package_classFileAt, w.stem_classFileAt, Bool.decide_and,
    Bool.and_comm, Bool.beq_eq_decide_eq]

/-- A package's index lists a file twice when both containers are in use and their classes lie under
this name in the package. -/
theorem WellPlaced.firstRepeated_companions_iff (w : env.WellPlaced catalog)
    (made : env.MakesAll catalog aliases) {result : PackageAliases} (member : result ∈ aliases)
    (modulesOnce : ((result.package.modules.map Module.id).map ModuleId.name).Nodup)
    {names : Container → QualifiedName} {stem : String} :
    FirstRepeated (companions result (env.classesFor names aliases)) stem ↔
      ∀ container, catalog.Uses env.settings container ∧
        env.classAt (names container) = inPackage result.package.name stem := by
  have directory := (w.declared.package _ (made.package_mem member)).no_slash
  have apart : ∀ name ∈ result.modules.map ModuleAliases.stem,
      name ∉ ((env.classesFor names aliases).filter
        fun c => c.package == result.package.name).map ClassFile.stem := by
    intro name ofAlias ofClass
    obtain ⟨file, _, rfl⟩ := List.mem_map.mp ofAlias
    obtain ⟨c, inFilter, same⟩ := List.mem_map.mp ofClass
    obtain ⟨container, _, rfl⟩ := List.mem_map.mp (List.mem_filter.mp inFilter).1
    rw [w.stem_classFileAt] at same
    exact append_ne_append (by decide) _ _ same
  rw [companions, firstRepeated_append_iff (made.stems_nodup member modulesOnce) apart,
    w.map_stem_classesFor made, firstRepeated_containers_iff, ← forall_and]
  refine forall_congr' fun container => ?_
  have ownDirectory := (w.packageFor_isMoveIdentifier (names container).moduleId).no_slash
  rw [decide_eq_true_eq, and_assoc, classAt, inPackage_inj ownDirectory directory]

end Environment

end MoveBindings
