import MoveBindings.Project
import MoveBindings.Proofs.Emission.Places

/-!
# Generated projects as runs

When a project is generated, its files are the files of a run laid out one by
one. A project whose names are Move identifiers, with standard settings except
for the names of the containers, gives rise to a well-named environment.
-/

namespace MoveBindings

/-- The standard settings with the given names for the containers. -/
def Settings.withContainers (table iterable : QualifiedName) : Settings :=
  { tableName := table.text, iterableTableName := iterable.text }

/-- The containers of such settings. -/
def containerNames (table iterable : QualifiedName) : Container → QualifiedName
  | .table => table
  | .iterableTable => iterable

/-- Laying a file out keeps its path. -/
theorem Environment.path_of_layOut {env : Environment} {path : String}
    {source : TypeScript.Script} {file : OutputFile} (h : env.layOut path source = .ok file) :
    file.path = path := by
  unfold layOut at h
  split at h
  · cases h
    rfl
  · cases h

namespace Project

variable {p : Project} {table iterable : QualifiedName}

theorem environment_settings (p : Project) : p.environment.settings = p.settings := rfl

/-- Standard settings with well-formed container names make a well-named environment. -/
theorem wellNamed (settings : p.settings = .withContainers table iterable)
    (tableParts : table.HasMoveIdentifiers) (iterableParts : iterable.HasMoveIdentifiers)
    (reachable : p.catalog.Reachable) (declared : p.catalog.HasMoveIdentifiers) :
    p.environment.WellNamed p.catalog (containerNames table iterable) where
  known := rfl
  reachable := reachable
  declared := declared
  standard := by
    rw [environment_settings, settings]
    change IsMoveIdentifier ({} : Settings).stdPackage
    decide
  configured := by
    rw [environment_settings, settings]
    intro container
    cases container <;> rfl
  containers := by
    intro container
    cases container
    · exact tableParts
    · exact iterableParts

theorem outcome_generate (p : Project) :
    p.generate.1 = (p.environment.projectFiles p.catalog).outcome := rfl

/-- Generated files are laid out from sources. -/
theorem generate_eq_ok_iff {files : List OutputFile} :
    p.generate.1 = .ok files ↔ ∃ sources,
      (p.environment.projectSources p.catalog).outcome = .ok sources ∧
        sources.mapM (fun file => p.environment.layOut file.path file.source) = .ok files := by
  rw [outcome_generate, Environment.projectFiles, Emission.outcome_bind_eq_ok_iff]
  rfl

/-- Nothing is found while files are laid out. -/
theorem found_projectFiles (env : Environment) (catalog : Catalog) :
    (env.projectFiles catalog).found = (env.projectSources catalog).found := by
  rw [Environment.projectFiles]
  cases made : (env.projectSources catalog).outcome with
  | error failure => exact Emission.found_bind_of_error made _
  | ok sources => exact (Emission.found_bind_of_ok made _).trans (List.append_nil _)

/-- A project keeps what was found before, and adds what is found about its sources. -/
theorem entries_generate (p : Project) :
    p.generate.2.log.entries =
      p.log.entries ++ (p.environment.projectSources p.catalog).found := by
  rw [← found_projectFiles]
  rfl

/-- A project that is generated gives rise to a run, and its files are the files of the run. -/
theorem exists_run_of_generate (reachable : p.catalog.Reachable) {files : List OutputFile}
    (generated : p.generate.1 = .ok files) :
    ∃ run : Environment.Run p.environment p.catalog p.environment.nameOf,
      run.sources.mapM (fun file => p.environment.layOut file.path file.source) = .ok files := by
  obtain ⟨sources, made, laidOut⟩ := generate_eq_ok_iff.mp generated
  obtain ⟨run, rfl⟩ :=
    (Environment.projectSources_eq_ok_iff rfl reachable.names_nodup).mp made
  exact ⟨run, laidOut⟩

/-- Generated files have the paths of their sources. -/
theorem map_path_of_layOut {env : Environment} {sources : List SourceAt} {files : List OutputFile}
    (h : sources.mapM (fun file => env.layOut file.path file.source) = .ok files) :
    files.map OutputFile.path = sources.map SourceAt.path :=
  map_eq_map ((mapM_eq_ok_iff.mp h).imp fun _ _ laidOut => Environment.path_of_layOut laidOut)

end Project

/-- A package with a struct that keeps a table and an iterable table of the given name. -/
def shopPackage (iterable : QualifiedName) : Package where
  name := "Shop"
  modules :=
    [ { id := ⟨"0x2", "Market"⟩
        structs :=
          [ { name := "Store"
              fields :=
                [ ⟨"items", .struct ⟨"0x1", "Table", "Table"⟩
                    [.scalar "u64", .struct ⟨"0x2", "Market", "Item"⟩ []]⟩,
                  ⟨"orders", .struct iterable [.scalar "address", .vector (.scalar "u8")]⟩ ] } ] } ]

/-- The project of this package alone. -/
def shopProject (iterable : QualifiedName) : Project where
  settings := .withContainers ⟨"0x1", "Table", "Table"⟩ iterable
  catalog :=
    { packages := [shopPackage iterable], packageOf := .ofList [(⟨"0x2", "Market"⟩, "Shop")] }

theorem shopProject_reachable (iterable : QualifiedName) :
    (shopProject iterable).catalog.Reachable := by
  have added : Catalog.add {} (shopPackage iterable) = .ok (shopProject iterable).catalog := rfl
  exact .add .empty added

theorem shopProject_declared (iterable : QualifiedName) :
    (shopProject iterable).catalog.HasMoveIdentifiers where
  package := by
    have shop : IsMoveIdentifier "Shop" := by decide
    simpa [shopProject, shopPackage] using shop
  module := by
    have market : IsMoveIdentifier "Market" := by decide
    simpa [shopProject, shopPackage] using market

end MoveBindings
