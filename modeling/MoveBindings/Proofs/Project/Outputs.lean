import MoveBindings.Proofs.Emission.DistinctPaths
import MoveBindings.Proofs.Project.Runs

/-!
# Whether every generated file is written

Files are written by their paths, and of two files with one path only the last
remains. This happens in one case: both containers are in use and their classes
lie at one path, because the modules of the containers have one name and are
looked for in one package. In every other case each generated file is written
with its own content, beside the files of the package if there are any.
-/

namespace MoveBindings

namespace ProjectOptions

/-- Where a path leads from a directory. -/
def placeIn (directory : Path) (path : String) : String :=
  (directory.join (Path.ofString path)).text

/-- The files that make a project a package of its own, if it is to be one: three files in the
output directory. -/
def scaffold (options : ProjectOptions) : List (String × String) :=
  if options.isPackage then
    [ (placeIn options.outputDir "package.json",
        (NpmPackage.packageJson options.name).pretty ++ "\n"),
      (placeIn options.outputDir "tsconfig.json", NpmPackage.compilerJson.pretty ++ "\n"),
      (placeIn options.outputDir "jest.config.js",
        "module.exports = \x7b\n  preset: \"ts-jest\",\n  testEnvironment: \"node\",\n" ++
          "  testPathIgnorePatterns: [\"dist/*\"],\n\x7d;\n") ]
  else []

/-- Generated files with their texts, and the files of the package. In a package, generated files
lie in a directory `src` of the output directory. -/
def placedFiles (options : ProjectOptions) (files : List OutputFile) : List (String × String) :=
  let root := if options.isPackage then options.outputDir.join ⟨"", ["src"]⟩ else options.outputDir
  files.map (fun file => (placeIn root file.path, file.content)) ++ options.scaffold

theorem scaffold_eq (options : ProjectOptions) :
    options.scaffold =
      if options.isPackage then (NpmPackage.files options.name).map (placed options.outputDir)
      else [] := by
  have jest : String.join (NpmPackage.jestLines.map (· ++ "\n")) =
      "module.exports = \x7b\n  preset: \"ts-jest\",\n  testEnvironment: \"node\",\n" ++
        "  testPathIgnorePatterns: [\"dist/*\"],\n\x7d;\n" := by decide
  rw [NpmPackage.files, jest]
  rfl

theorem placedFiles_eq (options : ProjectOptions) (files : List OutputFile) :
    options.placedFiles files = files.map (placed options.sourceRoot) ++ options.scaffold := rfl

theorem outputs_eq (options : ProjectOptions) (files : List OutputFile) :
    options.outputs files = Dictionary.ofList (options.placedFiles files) := by
  rw [placedFiles_eq, scaffold_eq]
  rfl

/-- Below one directory, files have different places when their paths differ. -/
theorem map_fst_placed (root : Path) {files : List OutputFile}
    (plain : ∀ file ∈ files, Path.IsPlain file.path) :
    (files.map (placed root)).map Prod.fst =
      (files.map OutputFile.path).map (root.lead ++ ·) := by
  rw [List.map_map, List.map_map]
  exact List.map_congr_left fun file member => text_join_of_isPlain root (plain file member)

/-- The names of the files that make a project a package of its own. -/
def scaffoldNames : List String := ["package.json", "tsconfig.json", "jest.config.js"]

theorem isComponent_of_mem_scaffoldNames {name : String} (member : name ∈ scaffoldNames) :
    Path.IsComponent name := by
  simp only [scaffoldNames, List.mem_cons, List.not_mem_nil, or_false] at member
  rcases member with rfl | rfl | rfl <;> exact ⟨by decide, by decide, by decide⟩

/-- The places of the files of a package. -/
theorem map_fst_scaffold (options : ProjectOptions) :
    options.scaffold.map Prod.fst =
      if options.isPackage then scaffoldNames.map (options.outputDir.lead ++ ·) else [] := by
  rw [scaffold_eq]
  split
  · have paths : (NpmPackage.files options.name).map OutputFile.path = scaffoldNames := rfl
    have plain : ∀ file ∈ NpmPackage.files options.name, Path.IsPlain file.path := by
      intro file member
      exact isPlain_entry
        (isComponent_of_mem_scaffoldNames (paths ▸ List.mem_map_of_mem member))
    rw [map_fst_placed _ plain, paths]
  · rfl

/-- Generated code lies in a directory of its own beside the files of a package. -/
theorem places_apart (directory : Path) (path : String) {name : String}
    (member : name ∈ scaffoldNames) :
    (directory.join ⟨"", ["src"]⟩).lead ++ path ≠ directory.lead ++ name := by
  rw [lead_join, String.append_assoc, Ne, String.append_right_inj]
  intro same
  have head : name.toList.head? = some 's' := by simp [← same]
  have other : ∀ name ∈ scaffoldNames, name.toList.head? ≠ some 's' := by decide
  exact other name member head

/-- All files have different places exactly when the generated files have different paths. -/
theorem places_nodup_iff (options : ProjectOptions) {files : List OutputFile}
    (plain : ∀ file ∈ files, Path.IsPlain file.path) :
    ((options.placedFiles files).map Prod.fst).Nodup ↔ (files.map OutputFile.path).Nodup := by
  have injective (lead : String) : Function.Injective (lead ++ ·) :=
    fun _ _ same => (String.append_right_inj lead).mp same
  rw [placedFiles_eq, List.map_append, map_fst_placed _ plain, map_fst_scaffold, sourceRoot]
  split
  · have scaffold_nodup : scaffoldNames.Nodup := by decide
    rw [List.nodup_append, List.nodup_map_iff (injective _), List.nodup_map_iff (injective _)]
    constructor
    · exact And.left
    · intro distinct
      refine ⟨distinct, scaffold_nodup, ?_⟩
      rintro place generated _ scaffold rfl
      obtain ⟨path, _, rfl⟩ := List.mem_map.mp generated
      obtain ⟨name, member, same⟩ := List.mem_map.mp scaffold
      exact places_apart options.outputDir path member same.symm
  · rw [List.append_nil, List.nodup_map_iff (injective _)]

end ProjectOptions

namespace Project

variable {p : Project} {table iterable : QualifiedName}

/-- Both containers are in use, and their classes lie at one path. -/
def ClassesCollide (p : Project) : Prop :=
  p.catalog.Uses p.settings .table ∧ p.catalog.Uses p.settings .iterableTable ∧
    p.environment.classFilePath p.settings.tableName =
      p.environment.classFilePath p.settings.iterableTableName

instance (p : Project) : Decidable p.ClassesCollide :=
  inferInstanceAs (Decidable (_ ∧ _ ∧ _ = _))

theorem classesCollide_iff
    (w : p.environment.WellNamed p.catalog (containerNames table iterable)) :
    p.ClassesCollide ↔
      p.catalog.Uses p.settings .table ∧ p.catalog.Uses p.settings .iterableTable ∧
        p.environment.classAt table = p.environment.classAt iterable := by
  have tablePath := w.classFilePath_eq .table
  have iterablePath := w.classFilePath_eq .iterableTable
  simp only [Container.configuredName, environment_settings, containerNames]
    at tablePath iterablePath
  rw [ClassesCollide, tablePath, iterablePath, Except.ok.injEq, String.append_left_inj]

/-- When a project is generated, its files have different paths, and each is written with its own
content, exactly when the classes of its containers do not collide. -/
theorem all_files_written_iff (settings : p.settings = .withContainers table iterable)
    (tableParts : table.HasMoveIdentifiers) (iterableParts : iterable.HasMoveIdentifiers)
    (reachable : p.catalog.Reachable) (declared : p.catalog.HasMoveIdentifiers)
    {files : List OutputFile} (generated : p.generate.1 = .ok files) :
    ((files.map OutputFile.path).Nodup ↔ ¬p.ClassesCollide) ∧
      ∃ written, p.outputs.1 = .ok written ∧
        (written.entries = p.options.placedFiles files ↔ ¬p.ClassesCollide) := by
  have w := wellNamed settings tableParts iterableParts reachable declared
  obtain ⟨sources, made, laidOut⟩ := generate_eq_ok_iff.mp generated
  obtain ⟨run, rfl⟩ := w.projectSources_eq_ok_iff.mp made
  have paths := map_path_of_layOut laidOut
  have plain : ∀ file ∈ files, Path.IsPlain file.path := by
    intro file member
    exact run.isPlain_of_mem_paths w (paths ▸ List.mem_map_of_mem member)
  have distinct : (files.map OutputFile.path).Nodup ↔ ¬p.ClassesCollide := by
    rw [paths, run.paths_nodup_iff w, classesCollide_iff w]
    rfl
  refine ⟨distinct, p.options.outputs files, ?_, ?_⟩
  · have outputs_eq : p.outputs.1 = p.generate.1.map p.options.outputs := rfl
    rw [outputs_eq, generated]
    rfl
  · rw [ProjectOptions.outputs_eq, Dictionary.entries_ofList_eq_iff,
      p.options.places_nodup_iff plain, distinct]

/-- Where the files of a shop lie whose containers have one module: one class, and the files of the
package. -/
def shopPlaces : List String :=
  [ "ts-output/src/Shop/Market.tables.ts", "ts-output/src/Shop/index.ts",
    "ts-output/src/Std/Table.accessors.ts", "ts-output/src/index.ts",
    "ts-output/package.json", "ts-output/tsconfig.json", "ts-output/jest.config.js" ]

/-- Of the two classes of a shop whose containers lie in one undeclared module only one is
written. -/
theorem all_files_written_iff_shop :
    let p := shopProject ⟨"0x1", "Table", "IterableTable"⟩
    ∃ files, p.generate.1 = .ok files ∧ ¬(files.map OutputFile.path).Nodup ∧
      ∃ written, p.outputs.1 = .ok written ∧ written.entries ≠ p.options.placedFiles files ∧
        written.entries.map Prod.fst = shopPlaces := by
  intro p
  have succeeds : p.generate.1.isOk = true := by
    set_option maxRecDepth 10000 in decide
  have collide : p.ClassesCollide := by decide
  obtain ⟨files, generated⟩ := exists_of_isOk succeeds
  obtain ⟨distinct, written, outputs, kept⟩ := all_files_written_iff rfl (by decide) (by decide)
    (shopProject_reachable _) (shopProject_declared _) generated
  have places : (p.outputs.1.map fun written => written.entries.map Prod.fst) =
      .ok shopPlaces := by
    decide +kernel
  rw [outputs] at places
  exact ⟨files, generated, fun different => distinct.mp different collide, written, outputs,
    fun all => kept.mp all collide, Except.ok.inj places⟩

end Project

end MoveBindings
