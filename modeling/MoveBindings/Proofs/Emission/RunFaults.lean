import MoveBindings.Proofs.Emission.AliasFaults
import MoveBindings.Proofs.Emission.Collisions
import MoveBindings.Proofs.TypeScript.Layouts

/-!
# When a run fails

Alias files are made for the modules one by one, and only then the indexes, for
the packages one by one. So what is wrong with some module is reported before
anything that is wrong with an index.
-/

namespace MoveBindings

/-- The modules of a catalog with their packages, in order. -/
def Catalog.listing (c : Catalog) : List (Package × Module) :=
  c.packages.flatMap fun package => package.modules.map fun module => (package, module)

theorem Catalog.mem_listing_iff {c : Catalog} {entry : Package × Module} :
    entry ∈ c.listing ↔ entry.1 ∈ c.packages ∧ entry.2 ∈ entry.1.modules := by
  simp only [listing, List.mem_flatMap, List.mem_map]
  constructor
  · rintro ⟨package, declared, module, inModules, rfl⟩
    exact ⟨declared, inModules⟩
  · rintro ⟨declared, inModules⟩
    exact ⟨entry.1, declared, entry.2, inModules, rfl⟩

namespace Environment

variable {env : Environment} {catalog : Catalog} {aliases : List PackageAliases}
  {failure : Failure}

/-- The name of a container in use can be taken apart when the field's type was read from a text. -/
theorem namesContainer_of_uses (described : catalog.Described) {container : Container}
    (uses : catalog.Uses env.settings container) : env.NamesContainer container := by
  obtain ⟨package, declared, module, inModules, struct, inStructs, field, inFields, claims⟩ := uses
  obtain ⟨name, params, shape, named⟩ := Container.claims_eq_true_iff.mp claims
  have formed := (described package declared module inModules).typed struct inStructs field inFields
  rw [shape] at formed
  refine namesContainer_iff.mpr ⟨name, ?_⟩
  rw [containerName, ← named, formed.read_name]

/-! ## Alias files -/

/-- Alias files fail to be made with what fails first among all modules. -/
theorem packageAliases_eq_error_iff :
    (catalog.packages.mapM env.packageAliases).outcome = .error failure ↔
      catalog.listing.mapM (fun entry => (env.moduleAliases entry.1.name entry.2).outcome) =
        .error failure := by
  have perPackage (package : Package) (failure : Failure) :
      (env.packageAliases package).outcome = .error failure ↔
        package.modules.mapM (fun module => (env.moduleAliases package.name module).outcome) =
          .error failure := by
    rw [packageAliases, Emission.outcome_bind, ← Emission.outcome_mapM]
    exact map_eq_error_iff
  rw [Emission.outcome_mapM, mapM_eq_error_congr perPackage, Catalog.listing, mapM_flatMap]
  simp only [List.mapM_map]
  exact map_eq_error_iff.symm

/-- All alias files can be made when all modules are sound. -/
theorem exists_makesAll_iff (known : ∃ modules, env.known = some modules)
    (different : env.settings.tableName ≠ env.settings.iterableTableName)
    (described : catalog.Described) :
    (∃ aliases, env.MakesAll catalog aliases) ↔
      ∀ entry ∈ catalog.listing, entry.2.IsSound env.settings := by
  have each : (∀ entry ∈ catalog.listing,
      ∃ result, (env.moduleAliases entry.1.name entry.2).outcome = .ok result) ↔
        ∀ entry ∈ catalog.listing, entry.2.IsSound env.settings := by
    refine forall₂_congr fun entry member => ?_
    obtain ⟨declared, inModules⟩ := Catalog.mem_listing_iff.mp member
    exact exists_moduleAliases_iff known different (described _ declared _ inModules)
  rw [← each, ← exists_mapM_eq_ok_iff, exists_ok_iff]
  simp only [ne_eq, ← packageAliases_eq_error_iff]
  rw [← exists_ok_iff]
  exact exists_congr fun aliases => Emission.outcome_mapM_eq_ok_iff.symm

/-! ## Indexes -/

theorem packageFiles_eq_error_iff {classes : List ClassFile} {result : PackageAliases} :
    (env.packageFiles classes result).outcome = .error failure ↔
      (∃ name, FirstRepeated ((result.package.modules.map Module.id).map ModuleId.name) name ∧
        failure = .duplicate ⟨"module", name, result.package.name⟩) ∨
      ((result.package.modules.map Module.id).map ModuleId.name).Nodup ∧
        ∃ stem, FirstRepeated (companions result classes) stem ∧
          failure = .duplicate ⟨"file", stem, result.package.name⟩ := by
  rw [packageFiles, Emission.outcome_bind_eq_error_iff, packageIndex_eq_error_iff]
  simp

/-- Generation fails with the alias files, or else with the index of a package. -/
theorem projectSources_eq_error_iff (known : env.known = some catalog.packageOf)
    (distinct : catalog.names.Nodup) :
    (env.projectSources catalog).outcome = .error failure ↔
      (catalog.packages.mapM env.packageAliases).outcome = .error failure ∨
        ∃ aliases, env.MakesAll catalog aliases ∧
          (aliases.mapM (env.packageFiles (env.classesFor env.nameOf aliases))).outcome =
            .error failure := by
  have index : (env.projectIndex catalog.names).outcome =
      .ok (env.projectScript catalog.names) :=
    env.projectIndex_eq_ok_iff.mpr ⟨distinct, rfl⟩
  rw [projectSources, Emission.outcome_bind_eq_error_iff]
  refine or_congr_right (exists_congr fun aliases => ?_)
  rw [Emission.outcome_mapM_eq_ok_iff]
  refine and_congr_right fun made => ?_
  simp only [Emission.outcome_bind_eq_error_iff, outcome_mapM_classFile known made, index,
    Emission.outcome_pure, reduceCtorEq, Except.ok.injEq, false_or, exists_eq_left', and_false,
    exists_false, or_false]

end Environment

end MoveBindings
