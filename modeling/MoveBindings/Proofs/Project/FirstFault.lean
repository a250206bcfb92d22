import MoveBindings.Proofs.Emission.RunFaults
import MoveBindings.Proofs.Project.FieldProjects
import MoveBindings.Proofs.Project.Outputs

/-!
# When a project is generated

A project whose declarations come from manifests and are named by identifiers is
generated unless a container field has not two type parameters, two of them have
one alias, a package lists two modules of one name, or the classes of both
containers lie at one path inside a package. What is reported is the first of
these faults: modules are gone through before indexes, in the order of the
manifests.
-/

namespace MoveBindings

namespace Project

variable {p : Project}

/-- The classes of both containers lie under one name in a package. -/
def ClassesCollideIn (p : Project) (package stem : String) : Prop :=
  p.ClassesCollide ∧
    p.environment.classFilePath p.settings.tableName = .ok (package ++ "/" ++ stem ++ ".ts")

/-- A package lists no module name twice, and the classes of containers do not collide in it. -/
structure IndexIsSound (p : Project) (package : Package) : Prop where
  modulesOnce : (package.modules.map fun module => module.id.name).Nodup
  classesApart : ∀ stem, ¬p.ClassesCollideIn package.name stem

/-- All modules of a project and all indexes of its packages are sound. -/
structure IsSound (p : Project) : Prop where
  modules : ∀ package ∈ p.catalog.packages, ∀ module ∈ package.modules, module.IsSound p.settings
  indexes : ∀ package ∈ p.catalog.packages, p.IndexIsSound package

/-- What is wrong with the index of a package first, and how it is reported. -/
inductive IndexFault (p : Project) (package : Package) : Failure → Prop where
  | moduleTwice {name : String}
      (repeated : FirstRepeated (package.modules.map fun module => module.id.name) name) :
      IndexFault p package (.duplicate ⟨"module", name, package.name⟩)
  | classesCollide {stem : String}
      (modulesOnce : (package.modules.map fun module => module.id.name).Nodup)
      (collide : p.ClassesCollideIn package.name stem) :
      IndexFault p package (.duplicate ⟨"file", stem, package.name⟩)

/-- What is wrong with a project first: the first fault of the first module that is not sound, or
else of the first index. -/
inductive FirstFault (p : Project) : Failure → Prop where
  | module {before after : List (Package × Module)} {package : Package} {module : Module}
      {failure : Failure} (split : p.catalog.listing = before ++ (package, module) :: after)
      (sound : ∀ earlier ∈ before, earlier.2.IsSound p.settings)
      (fault : module.Fault p.settings package.name failure) : FirstFault p failure
  | index {before after : List Package} {package : Package} {failure : Failure}
      (modules : ∀ entry ∈ p.catalog.listing, entry.2.IsSound p.settings)
      (split : p.catalog.packages = before ++ package :: after)
      (sound : ∀ earlier ∈ before, p.IndexIsSound earlier)
      (fault : p.IndexFault package failure) : FirstFault p failure

/-- A project from manifests, named by identifiers, with different names for the containers. -/
structure IsDiscovered (p : Project) : Prop where
  discovered : p.catalog.Discovered
  declared : p.catalog.HasMoveIdentifiers
  standard : IsMoveIdentifier p.settings.stdPackage
  different : p.settings.tableName ≠ p.settings.iterableTableName

namespace IsDiscovered

theorem wellPlaced (h : p.IsDiscovered) : p.environment.WellPlaced p.catalog :=
  ⟨rfl, h.discovered.reachable, h.declared, h.standard⟩

/-- Classes collide in a package when both containers are in use and their classes lie there. -/
theorem classesCollideIn_iff (h : p.IsDiscovered) {package stem : String} :
    p.ClassesCollideIn package stem ↔ ∀ container, p.catalog.Uses p.settings container ∧
      p.environment.classAt (p.environment.nameOf container) = inPackage package stem := by
  have path {container : Container} (uses : p.catalog.Uses p.settings container) :
      p.environment.classFilePath (container.configuredName p.settings) =
        .ok (p.environment.classAt (p.environment.nameOf container) ++ ".ts") :=
    Environment.classFilePath_of_named rfl
      (Environment.namesContainer_of_uses h.discovered.described uses)
  constructor
  · rintro ⟨⟨table, iterable, same⟩, place⟩ container
    have tablePath := (path table).symm.trans place
    have iterablePath := (path iterable).symm.trans (same.symm.trans place)
    rw [Except.ok.injEq, String.append_left_inj] at tablePath iterablePath
    cases container
    · exact ⟨table, tablePath⟩
    · exact ⟨iterable, iterablePath⟩
  · intro both
    obtain ⟨table, tablePath⟩ := both .table
    obtain ⟨iterable, iterablePath⟩ := both .iterableTable
    have tablePlace := path table
    have iterablePlace := path iterable
    rw [tablePath] at tablePlace
    rw [iterablePath] at iterablePlace
    exact ⟨⟨table, iterable, tablePlace.trans iterablePlace.symm⟩, tablePlace⟩

/-- Where all alias files are made, the index of a package fails with the fault of the package. -/
theorem packageFiles_eq_error_iff (h : p.IsDiscovered) {aliases : List PackageAliases}
    (made : p.environment.MakesAll p.catalog aliases) {result : PackageAliases}
    (member : result ∈ aliases) {failure : Failure} :
    (p.environment.packageFiles (p.environment.classesFor p.environment.nameOf aliases)
        result).outcome = .error failure ↔ p.IndexFault result.package failure := by
  have names : (result.package.modules.map Module.id).map ModuleId.name =
      result.package.modules.map fun module => module.id.name := List.map_map ..
  rw [Environment.packageFiles_eq_error_iff]
  constructor
  · rintro (⟨name, repeated, rfl⟩ | ⟨once, stem, repeated, rfl⟩)
    · exact .moduleTwice (names ▸ repeated)
    · have collide := (h.wellPlaced.firstRepeated_companions_iff made member once).mp repeated
      exact .classesCollide (names ▸ once) (h.classesCollideIn_iff.mpr collide)
  · intro fault
    cases fault with
    | moduleTwice repeated => exact .inl ⟨_, names ▸ repeated, rfl⟩
    | classesCollide once collide =>
      have once := names ▸ once
      have collide := h.classesCollideIn_iff.mp collide
      exact .inr ⟨once, _, (h.wellPlaced.firstRepeated_companions_iff made member once).mpr collide,
        rfl⟩

end IsDiscovered

theorem IndexFault.not_indexIsSound {package : Package} {failure : Failure}
    (fault : p.IndexFault package failure) : ¬p.IndexIsSound package := by
  intro sound
  cases fault with
  | moduleTwice repeated => exact repeated.not_nodup sound.modulesOnce
  | classesCollide _ collide => exact sound.classesApart _ collide

/-- A package without faults has a sound index. -/
theorem indexIsSound_of_no_fault {package : Package}
    (none : ∀ failure, ¬p.IndexFault package failure) : p.IndexIsSound package := by
  have modulesOnce : (package.modules.map fun module => module.id.name).Nodup := by
    by_contra repeats
    obtain ⟨name, repeated⟩ := exists_firstRepeated repeats
    exact none _ (.moduleTwice repeated)
  exact ⟨modulesOnce, fun _ collide => none _ (.classesCollide modulesOnce collide)⟩

namespace IsDiscovered

/-- Where all alias files are made, the index of a package can be made when it is sound. -/
theorem exists_packageFiles_iff (h : p.IsDiscovered) {aliases : List PackageAliases}
    (made : p.environment.MakesAll p.catalog aliases) {result : PackageAliases}
    (member : result ∈ aliases) :
    (∃ files, (p.environment.packageFiles
      (p.environment.classesFor p.environment.nameOf aliases) result).outcome = .ok files) ↔
        p.IndexIsSound result.package := by
  simp only [exists_ok_iff, ne_eq, h.packageFiles_eq_error_iff made member]
  exact ⟨indexIsSound_of_no_fault, fun sound failure fault => fault.not_indexIsSound sound⟩

/-- Once sources are found, they can be laid out. -/
theorem generate_eq_error_iff (h : p.IsDiscovered) {failure : Failure} :
    p.generate.1 = .error failure ↔
      (p.environment.projectSources p.catalog).outcome = .error failure := by
  have outcome : p.generate.1 = (p.environment.projectFiles p.catalog).outcome := rfl
  have distinct := h.discovered.reachable.names_nodup
  rw [outcome, Environment.projectFiles, Emission.outcome_bind_eq_error_iff]
  refine or_iff_left ?_
  rintro ⟨sources, made, fails⟩
  obtain ⟨run, rfl⟩ := (Environment.projectSources_eq_ok_iff rfl distinct).mp made
  obtain ⟨files, laidOut⟩ := run.exists_files
  cases laidOut.symm.trans fails

/-- The modules of a project from manifests can be worked through up to the first fault. -/
theorem packageAliases_eq_error_iff (h : p.IsDiscovered) {failure : Failure} :
    (p.catalog.packages.mapM p.environment.packageAliases).outcome = .error failure ↔
      ∃ before package module after,
        p.catalog.listing = before ++ (package, module) :: after ∧
        (∀ earlier ∈ before, earlier.2.IsSound p.settings) ∧
        module.Fault p.settings package.name failure := by
  have known : ∃ modules, p.environment.known = some modules := ⟨_, rfl⟩
  have described {entry : Package × Module} (member : entry ∈ p.catalog.listing) :
      entry.2.Described := by
    obtain ⟨declared, inModules⟩ := Catalog.mem_listing_iff.mp member
    exact h.discovered.described _ declared _ inModules
  rw [Environment.packageAliases_eq_error_iff, mapM_eq_error_iff]
  constructor
  · rintro ⟨before, ⟨package, module⟩, after, split, sound, fails⟩
    refine ⟨before, package, module, after, split, ?_, ?_⟩
    · intro earlier inBefore
      have inListing : earlier ∈ p.catalog.listing := by simp [split, inBefore]
      exact (Environment.exists_moduleAliases_iff known h.different
        (described inListing)).mp (sound earlier inBefore)
    · have inListing : (package, module) ∈ p.catalog.listing := by simp [split]
      exact (Environment.moduleAliases_eq_error_iff_fault known h.different
        (described inListing)).mp fails
  · rintro ⟨before, package, module, after, split, sound, fault⟩
    refine ⟨before, (package, module), after, split, ?_, ?_⟩
    · intro earlier inBefore
      have inListing : earlier ∈ p.catalog.listing := by simp [split, inBefore]
      exact (Environment.exists_moduleAliases_iff known h.different
        (described inListing)).mpr (sound earlier inBefore)
    · have inListing : (package, module) ∈ p.catalog.listing := by simp [split]
      exact (Environment.moduleAliases_eq_error_iff_fault known h.different
        (described inListing)).mpr fault

/-- Where all alias files are made, indexes can be worked through up to the first fault. -/
theorem mapM_packageFiles_eq_error_iff (h : p.IsDiscovered) {aliases : List PackageAliases}
    (made : p.environment.MakesAll p.catalog aliases) {failure : Failure} :
    (aliases.mapM (p.environment.packageFiles
        (p.environment.classesFor p.environment.nameOf aliases))).outcome = .error failure ↔
      ∃ before package after, p.catalog.packages = before ++ package :: after ∧
        (∀ earlier ∈ before, p.IndexIsSound earlier) ∧ p.IndexFault package failure := by
  rw [Emission.outcome_mapM_eq_error_iff]
  constructor
  · rintro ⟨before, result, after, split, sound, fails⟩
    have member : result ∈ aliases := by simp [split]
    refine ⟨before.map PackageAliases.package, result.package,
      after.map PackageAliases.package, ?_, ?_, (h.packageFiles_eq_error_iff made member).mp fails⟩
    · rw [← made.map_package, split, List.map_append, List.map_cons]
    · intro earlier inBefore
      obtain ⟨other, found, rfl⟩ := List.mem_map.mp inBefore
      exact (h.exists_packageFiles_iff made (by simp [split, found])).mp (sound other found)
  · rintro ⟨before, package, after, split, sound, fault⟩
    rw [← made.map_package] at split
    obtain ⟨first, rest, parts, rfl, tail⟩ := List.map_eq_append_iff.mp split
    obtain ⟨result, others, rfl, rfl, rfl⟩ := List.map_eq_cons_iff.mp tail
    have member : result ∈ aliases := by simp [parts]
    refine ⟨first, result, others, parts, ?_, (h.packageFiles_eq_error_iff made member).mpr fault⟩
    intro earlier inFirst
    exact (h.exists_packageFiles_iff made (by simp [parts, inFirst])).mpr
      (sound earlier.package (List.mem_map_of_mem inFirst))

/-- A project fails with its first fault. -/
theorem generate_eq_error_iff_firstFault (h : p.IsDiscovered) {failure : Failure} :
    p.generate.1 = .error failure ↔ p.FirstFault failure := by
  have all : (∃ aliases, p.environment.MakesAll p.catalog aliases) ↔
      ∀ entry ∈ p.catalog.listing, entry.2.IsSound p.settings :=
    Environment.exists_makesAll_iff ⟨_, rfl⟩ h.different h.discovered.described
  rw [h.generate_eq_error_iff, Environment.projectSources_eq_error_iff rfl
    h.discovered.reachable.names_nodup, h.packageAliases_eq_error_iff]
  constructor
  · rintro (⟨_, _, _, _, split, sound, fault⟩ | ⟨aliases, made, fails⟩)
    · exact .module split sound fault
    · obtain ⟨_, _, _, split, sound, fault⟩ := (h.mapM_packageFiles_eq_error_iff made).mp fails
      exact .index (all.mp ⟨aliases, made⟩) split sound fault
  · intro first
    cases first with
    | module split sound fault => exact .inl ⟨_, _, _, _, split, sound, fault⟩
    | index modules split sound fault =>
      obtain ⟨aliases, made⟩ := all.mpr modules
      exact .inr ⟨aliases, made,
        (h.mapM_packageFiles_eq_error_iff made).mpr ⟨_, _, _, split, sound, fault⟩⟩

/-- A project can be generated when all its modules and indexes are sound. -/
theorem exists_generate_iff (h : p.IsDiscovered) :
    (∃ files, p.generate.1 = .ok files) ↔ p.IsSound := by
  rw [exists_ok_iff]
  simp only [ne_eq, h.generate_eq_error_iff_firstFault]
  constructor
  · intro none
    have makes : ∃ aliases, p.environment.MakesAll p.catalog aliases := by
      have succeeds : ∃ aliases,
          (p.catalog.packages.mapM p.environment.packageAliases).outcome = .ok aliases := by
        rw [exists_ok_iff]
        intro failure fails
        obtain ⟨_, _, _, _, split, sound, fault⟩ := h.packageAliases_eq_error_iff.mp fails
        exact none failure (.module split sound fault)
      obtain ⟨aliases, made⟩ := succeeds
      exact ⟨aliases, Emission.outcome_mapM_eq_ok_iff.mp made⟩
    have modules := (Environment.exists_makesAll_iff ⟨_, rfl⟩ h.different
      h.discovered.described).mp makes
    obtain ⟨aliases, made⟩ := makes
    have succeeds : ∃ files, (aliases.mapM (p.environment.packageFiles
        (p.environment.classesFor p.environment.nameOf aliases))).outcome = .ok files := by
      rw [exists_ok_iff]
      intro failure fails
      obtain ⟨_, _, _, split, sound, fault⟩ := (h.mapM_packageFiles_eq_error_iff made).mp fails
      exact none failure (.index modules split sound fault)
    rw [Emission.outcome_mapM, exists_mapM_eq_ok_iff] at succeeds
    constructor
    · intro package declared module inModules
      exact modules (package, module) (Catalog.mem_listing_iff.mpr ⟨declared, inModules⟩)
    · intro package declared
      rw [← made.map_package] at declared
      obtain ⟨result, member, rfl⟩ := List.mem_map.mp declared
      exact (h.exists_packageFiles_iff made member).mp (succeeds result member)
  · intro sound failure first
    cases first with
    | @module before after package module _ split _ fault =>
      have inListing : (package, module) ∈ p.catalog.listing := by simp [split]
      obtain ⟨declared, inModules⟩ := Catalog.mem_listing_iff.mp inListing
      exact fault.not_isSound (sound.modules package declared module inModules)
    | @index before after package _ _ split _ fault =>
      exact fault.not_indexIsSound (sound.indexes package (by simp [split]))

end IsDiscovered

/-- A project from manifests can be generated exactly when every container field has two type
parameters, no two container fields of a module have one alias, no package lists a module name
twice, and the classes of the containers do not collide in a package. Otherwise the first of these
faults is reported, where all modules come before the indexes; a type is never what cannot be
read. -/
theorem generate_succeeds_iff (h : p.IsDiscovered) :
    ((∃ files, p.generate.1 = .ok files) ↔ p.IsSound) ∧
      (∀ failure, p.generate.1 = .error failure ↔ p.FirstFault failure) ∧
      ∀ error, p.generate.1 ≠ .error (.tag error) := by
  refine ⟨h.exists_generate_iff, fun failure => h.generate_eq_error_iff_firstFault, ?_⟩
  intro error fails
  cases h.generate_eq_error_iff_firstFault.mp fails with
  | module _ _ fault => cases fault
  | index _ _ _ fault => cases fault

/-- One shop with one market, whose store has a table with the given parameters. -/
def shelfProject (params : List Tag) : Project :=
  fieldProject params [("Shop", "Market")]

theorem shelfProject_isDiscovered {params : List Tag}
    (formed : ∀ param ∈ params, param.WellFormed) : (shelfProject params).IsDiscovered where
  discovered := fieldProject_discovered formed (by decide) (by decide)
  declared := by
    have shop : IsMoveIdentifier "Shop" := by decide
    have market : IsMoveIdentifier "Market" := by decide
    constructor
    · simpa [shelfProject, fieldProject, fieldPackage] using shop
    · simpa [shelfProject, fieldProject, fieldPackage, fieldModule] using market
  standard := by
    change IsMoveIdentifier ({} : Settings).stdPackage
    decide
  different := by
    change ({} : Settings).tableName ≠ ({} : Settings).iterableTableName
    decide

/-- A table with two type parameters is accepted, and one with a single parameter is reported. -/
theorem generate_succeeds_iff_shelf :
    (∃ files, (shelfProject [.scalar "u64", .scalar "bool"]).generate.1 = .ok files) ∧
      (shelfProject [.scalar "u64"]).generate.1 =
        .error (.shape
          { fieldName := "items", expectedName := "0x1::Table::Table"
            actualName := some "0x1::Table::Table", actualParams := some 1
            declaredIn := "0x2::Market::Store" }) := by
  constructor
  · have sound : (shelfProject [.scalar "u64", .scalar "bool"]).IsDiscovered :=
      shelfProject_isDiscovered (scalars_wellFormed ["u64", "bool"] (by decide))
    refine (generate_succeeds_iff sound).1.mpr ⟨by decide, ?_⟩
    intro package member
    cases List.mem_singleton.mp member
    have apart : ¬(shelfProject [.scalar "u64", .scalar "bool"]).ClassesCollide := by decide
    exact ⟨by decide, fun _ collide => apart collide.1⟩
  · have odd : (shelfProject [.scalar "u64"]).IsDiscovered :=
      shelfProject_isDiscovered (scalars_wellFormed ["u64"] (by decide))
    let items : Field := ⟨"items", .struct ⟨"0x1", "Table", "Table"⟩ [.scalar "u64"]⟩
    have members : (fieldModule [.scalar "u64"] "Market").containerMembers {} =
        [] ++ ⟨⟨"Store", [items]⟩, items⟩ :: [] := rfl
    have claimed : Container.table.claims {} items = true := by decide
    have fault : (fieldModule [.scalar "u64"] "Market").Fault {} "Shop" _ :=
      .misshapen members nofun (by decide) claimed
    have listing : (shelfProject [.scalar "u64"]).catalog.listing =
        [] ++ (⟨"Shop", [fieldModule [.scalar "u64"] "Market"]⟩,
          fieldModule [.scalar "u64"] "Market") :: [] := rfl
    exact ((generate_succeeds_iff odd).2.1 _).mpr (.module listing nofun fault)

end Project

end MoveBindings
