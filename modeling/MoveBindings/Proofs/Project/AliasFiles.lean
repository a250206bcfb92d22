import MoveBindings.Proofs.Emission.AliasOrder
import MoveBindings.Proofs.Project.FirstFault

/-!
# No container field is lost

A project that is generated from manifests has one alias file for each module
with container fields, in the order of the modules, and no other files with the
ending of alias files. The aliases of such a file are those of the container
fields in the order of their declaration. The paths of alias files are different
when no package name has a slash in it. Names with slashes can bring two alias
files to one path.
-/

namespace MoveBindings

open TypeScript

namespace Project

variable {p : Project}

/-- The alias file of a module: it lies at the module's path, and behind its imports it has one
alias for each container field, in order. -/
structure IsAliasFile (p : Project) (package : String) (module : Module) (file : OutputFile) :
    Prop where
  path : file.path = package ++ "/" ++ module.id.name ++ ".tables.ts"
  aliases : ∃ (imports : List Link) (aliases : List TypeAlias),
    p.environment.layOut file.path ⟨imports.map .importFrom ++ aliases.map .typeAlias⟩ = .ok file ∧
      List.Forall₂ (Member.AliasedAs p.environment) (module.containerMembers p.settings) aliases

/-- The alias file that a run makes for a described module is the alias file of the module. -/
theorem isAliasFile_of_makesAliases
    (different : p.settings.tableName ≠ p.settings.iterableTableName) {package : String}
    {module : Module} (described : module.Described) {result : ModuleAliases}
    (made : MakesAliases p.environment package module (some result)) {file : OutputFile}
    (laidOut : p.environment.layOut result.file.path result.file.source = .ok file) :
    p.IsAliasFile package module file := by
  cases made with
  | some search _ made =>
    have path := Environment.path_of_layOut laidOut
    obtain ⟨_, stems, _, rfl⟩ := Environment.of_aliasSource made
    have found := (Environment.moduleContainerFields_eq_ok_iff different).mp search
    rw [← path] at laidOut
    exact ⟨path, _, _, laidOut, Environment.aliasedAs_of_found described found⟩

/-- A project that is generated has the alias files of its modules, in order. -/
theorem aliasFiles_of_layOut (discovered : p.catalog.Discovered)
    (different : p.settings.tableName ≠ p.settings.iterableTableName)
    (run : Environment.Run p.environment p.catalog p.environment.nameOf) {files : List OutputFile}
    (laidOut : run.sources.mapM (fun file => p.environment.layOut file.path file.source) =
      .ok files) :
    List.Forall₂ (fun entry file => p.IsAliasFile entry.1.name entry.2 file)
      (p.catalog.listing.filter fun entry => entry.2.hasContainerFields p.settings)
      (files.filter fun file => hasAliasPath file.path) := by
  have chosen : List.Forall₂
      (fun source file => p.environment.layOut source.path source.source = .ok file)
      (run.sources.filter fun file => hasAliasPath file.path)
      (files.filter fun file => hasAliasPath file.path) := by
    refine List.rel_filter ?_ (mapM_eq_ok_iff.mp laidOut)
    intro source file laidOut
    change hasAliasPath source.path = true ↔ hasAliasPath file.path = true
    rw [Environment.path_of_layOut laidOut]
  rw [run.filter_hasAliasPath, List.forall₂_map_left_iff] at chosen
  refine related_trans (related_mem run.makesAll.aliasFiles) chosen ?_
  rintro ⟨package, module⟩ result file ⟨listed, made⟩ laidOut
  obtain ⟨declared, inModules⟩ := Catalog.mem_listing_iff.mp (List.mem_filter.mp listed).1
  exact isAliasFile_of_makesAliases different (discovered.described _ declared _ inModules) made
    laidOut

/-- The paths of alias files are different when packages can be told apart in them. -/
theorem aliasPaths_nodup (reachable : p.catalog.Reachable)
    (noSlash : ∀ package ∈ p.catalog.packages, '/' ∉ package.name.toList)
    (run : Environment.Run p.environment p.catalog p.environment.nameOf) :
    ((run.sources.filter fun file => hasAliasPath file.path).map SourceAt.path).Nodup := by
  have fromPackages : (run.sources.filter fun file => hasAliasPath file.path) =
      (run.aliases.flatMap run.packageSources).filter fun file => hasAliasPath file.path := by
    rw [run.filter_hasAliasPath, List.filter_flatMap, List.map_flatMap]
    exact List.flatMap_congr fun aliases member => (run.filter_packageSources member).symm
  rw [fromPackages]
  exact (List.filter_sublist.map _).nodup
    (run.packagesPaths_nodup reachable.names_nodup noSlash)

/-- No two modules of a run's package have one name, and no two packages. -/
theorem eq_of_names_eq (reachable : p.catalog.Reachable)
    (run : Environment.Run p.environment p.catalog p.environment.nameOf)
    {package other : Package} (declared : package ∈ p.catalog.packages)
    (otherDeclared : other ∈ p.catalog.packages) {module second : Module}
    (inModules : module ∈ package.modules) (inOthers : second ∈ other.modules)
    (packageName : package.name = other.name) (moduleName : module.id.name = second.id.name) :
    package = other ∧ module = second := by
  obtain rfl := List.inj_on_of_nodup_map reachable.names_nodup declared otherDeclared packageName
  refine ⟨rfl, ?_⟩
  rw [← run.map_package] at declared
  obtain ⟨aliases, member, rfl⟩ := List.mem_map.mp declared
  have once := run.modulesOnce aliases member
  rw [List.map_map] at once
  exact List.inj_on_of_nodup_map once inModules inOthers moduleName

/-- A project that is generated from manifests has one alias file for each module with container
fields, in order: at the path of the module, with the aliases of these fields one by one. No other
file has their ending. When no package name has a slash in it, a module with container fields has
one file at this path, and any other module has none. -/
theorem alias_files_complete (discovered : p.catalog.Discovered)
    (different : p.settings.tableName ≠ p.settings.iterableTableName) {files : List OutputFile}
    (generated : p.generate.1 = .ok files) :
    List.Forall₂ (fun entry file => p.IsAliasFile entry.1.name entry.2 file)
        (p.catalog.listing.filter fun entry => entry.2.hasContainerFields p.settings)
        (files.filter fun file => hasAliasPath file.path) ∧
      ((∀ package ∈ p.catalog.packages, '/' ∉ package.name.toList) →
        ∀ package ∈ p.catalog.packages, ∀ module ∈ package.modules,
          (files.map OutputFile.path).count
              (package.name ++ "/" ++ module.id.name ++ ".tables.ts") =
            if module.hasContainerFields p.settings then 1 else 0) := by
  have reachable := discovered.reachable
  obtain ⟨run, laidOut⟩ := exists_run_of_generate reachable generated
  have each := aliasFiles_of_layOut discovered different run laidOut
  refine ⟨each, ?_⟩
  intro noSlash package declared module inModules
  have isAlias : hasAliasPath (AliasFile.path package.name module.id) = true :=
    hasAliasPath_eq_true_iff.mpr ⟨_, rfl⟩
  have once : ((files.map OutputFile.path).filter hasAliasPath).Nodup := by
    rw [map_path_of_layOut laidOut, List.filter_map]
    exact aliasPaths_nodup reachable noSlash run
  have paths : (files.map OutputFile.path).filter hasAliasPath =
      (p.catalog.listing.filter fun entry => entry.2.hasContainerFields p.settings).map
        fun entry => AliasFile.path entry.1.name entry.2.id := by
    rw [List.filter_map]
    exact map_eq_map (each.imp fun _ _ file => file.path)
  change (files.map OutputFile.path).count (AliasFile.path package.name module.id) = _
  rw [← List.count_filter isAlias, once.count, paths]
  have found : AliasFile.path package.name module.id ∈
      (p.catalog.listing.filter fun entry => entry.2.hasContainerFields p.settings).map
        (fun entry => AliasFile.path entry.1.name entry.2.id) ↔
      module.hasContainerFields p.settings = true := by
    constructor
    · intro member
      obtain ⟨⟨other, second⟩, listed, same⟩ := List.mem_map.mp member
      obtain ⟨inListing, container⟩ := List.mem_filter.mp listed
      obtain ⟨otherDeclared, inOthers⟩ := Catalog.mem_listing_iff.mp inListing
      rw [aliasPath_eq, aliasPath_eq, inPackage_inj (noSlash _ otherDeclared) (noSlash _ declared),
        String.append_left_inj] at same
      obtain ⟨rfl, rfl⟩ := eq_of_names_eq reachable run otherDeclared declared inOthers inModules
        same.1 same.2
      exact container
    · intro container
      exact List.mem_map.mpr ⟨(package, module), List.mem_filter.mpr
        ⟨Catalog.mem_listing_iff.mpr ⟨declared, inModules⟩, container⟩, rfl⟩
  simp only [found]

/-- A shop with its two containers can be described in a manifest. -/
theorem shopPackage_describable :
    (shopPackage ⟨"0x1", "IterableTable", "IterableTable"⟩).Describable where
  named := by decide
  modules := by
    have item : (Tag.struct ⟨"0x2", "Market", "Item"⟩ []).WellFormed :=
      .struct (by decide) (by decide) (by decide) (by decide) (by decide) nofun
    have items : (Tag.struct ⟨"0x1", "Table", "Table"⟩
        [.scalar "u64", .struct ⟨"0x2", "Market", "Item"⟩ []]).WellFormed := by
      refine .struct (by decide) (by decide) (by decide) (by decide) (by decide) ?_
      exact List.forall_mem_cons.mpr ⟨.scalar (by decide), List.forall_mem_singleton.mpr item⟩
    have orders : (Tag.struct ⟨"0x1", "IterableTable", "IterableTable"⟩
        [.scalar "address", .vector (.scalar "u8")]).WellFormed := by
      refine .struct (by decide) (by decide) (by decide) (by decide) (by decide) ?_
      have bytes : (Tag.vector (.scalar "u8")).WellFormed := .vector (.scalar (by decide))
      exact List.forall_mem_cons.mpr ⟨.scalar (by decide), List.forall_mem_singleton.mpr bytes⟩
    refine List.forall_mem_singleton.mpr ⟨by decide, by decide, ?_⟩
    refine List.forall_mem_singleton.mpr ⟨by decide, ?_⟩
    exact List.forall_mem_cons.mpr
      ⟨⟨by decide, items⟩, List.forall_mem_singleton.mpr ⟨by decide, orders⟩⟩

/-- The alias file of this shop. -/
def shopAliases : String :=
  "import \x7b HexString \x7d from \"aptos\";\n" ++
    "import \x7b U64, U8 \x7d from \"@manahippo/move-to-ts\";\n" ++
    "import \x7b TypedIterableTable \x7d from '../Std/IterableTable.accessors';\n" ++
    "import \x7b TypedTable \x7d from '../Std/Table.accessors';\n" ++
    "import * as Market$_ from './Market';\n\n" ++
    "export type Store$items = TypedTable<U64, Market$_.Item>;\n" ++
    "export type Store$orders = TypedIterableTable<HexString, U8[]>;\n"

/-- Both containers of a shop have their aliases in one file, in the order of the fields. -/
theorem alias_files_complete_shop :
    let p := shopProject ⟨"0x1", "IterableTable", "IterableTable"⟩
    ∃ files, p.generate.1 = .ok files ∧
      (files.map OutputFile.path).count "Shop/Market.tables.ts" = 1 ∧
      (files.filter fun file => hasAliasPath file.path).map OutputFile.content =
        [shopAliases] := by
  intro p
  have discovered : p.catalog.Discovered :=
    Catalog.Discovered.empty.add shopPackage_describable rfl
  have contents : (p.generate.1.map fun files =>
      (files.filter fun file => hasAliasPath file.path).map OutputFile.content) =
        .ok [shopAliases] := by
    decide +kernel
  cases generated : p.generate.1 with
  | error failure =>
    rw [generated] at contents
    cases contents
  | ok files =>
    rw [generated] at contents
    have complete := alias_files_complete discovered (by decide) generated
    have counts := complete.2 (by decide) _ (List.mem_singleton_self _) _
      (List.mem_singleton_self _)
    exact ⟨files, rfl, counts, Except.ok.inj contents⟩

/-- With a slash in the name of a package, two modules can have their alias files at one path. -/
theorem alias_files_at_one_path :
    let p := fieldProject [.scalar "u64", .scalar "bool"] [("A", "B/C"), ("A/B", "C")]
    p.catalog.Discovered ∧ p.settings.tableName ≠ p.settings.iterableTableName ∧
      ∃ files, p.generate.1 = .ok files ∧
        ∃ package ∈ p.catalog.packages, ∃ module ∈ package.modules,
          module.hasContainerFields p.settings = true ∧
          (files.map OutputFile.path).count
            (package.name ++ "/" ++ module.id.name ++ ".tables.ts") ≠ 1 := by
  intro p
  have discovered : p.catalog.Discovered :=
    fieldProject_discovered (scalars_wellFormed ["u64", "bool"] (by decide)) (by decide) (by decide)
  have twice : (p.generate.1.map fun files =>
      (files.map OutputFile.path).count "A/B/C.tables.ts") = .ok 2 := by
    set_option maxRecDepth 10000 in decide
  refine ⟨discovered, by decide, ?_⟩
  cases generated : p.generate.1 with
  | error failure =>
    rw [generated] at twice
    cases twice
  | ok files =>
    rw [generated] at twice
    have count : (files.map OutputFile.path).count "A/B/C.tables.ts" = 2 :=
      Except.ok.inj twice
    have path : AliasFile.path "A" ⟨"0x2", "B/C"⟩ = "A/B/C.tables.ts" := by decide
    refine ⟨files, rfl, _, List.mem_cons_self, _, List.mem_cons_self, by decide, ?_⟩
    change (files.map OutputFile.path).count (AliasFile.path "A" ⟨"0x2", "B/C"⟩) ≠ 1
    rw [path, count]
    decide

end Project

end MoveBindings
