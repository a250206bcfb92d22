import MoveBindings.Proofs.Emission.LinkTargets
import MoveBindings.Proofs.Project.Runs

/-!
# No dangling imports

Five computations of paths have to fit together in a generated project: where
alias files, classes and indexes lie, where bindings are looked for, and how one
file refers to another. They do: every relative import or export resolves to
something that the project has or that is made elsewhere for it.
-/

namespace MoveBindings

open TypeScript

namespace Project

variable {p : Project} {table iterable : QualifiedName}

theorem namesLibraries (settings : p.settings = .withContainers table iterable) :
    p.environment.settings.NamesLibraries := by
  rw [environment_settings, settings]
  constructor
  · change ({} : Settings).runtimeModule.toList.head? ≠ some '.'
    decide
  · change ({} : Settings).clientModule.toList.head? ≠ some '.'
    decide

/-- The relative imports and exports of a file point at files of the given paths, at declared
packages or at bindings. -/
def PointsAtTargets (p : Project) (paths : List String) (file : SourceAt) : Prop :=
  ∀ link ∈ file.source.imports ++ file.source.exports, link.IsRelative →
    LinkTarget p.settings p.catalog paths (Path.resolve (Path.ofString file.path) link.source)

/-- Where an alias file imports a container's class from, one of the files declares it. -/
def ImportsDeclaredClasses (sources : List SourceAt) (file : SourceAt) : Prop :=
  ∀ stem, file.path = stem ++ ".tables.ts" → ∀ link ∈ file.source.imports,
    ∀ imported, link.binding = .names imported →
      ∀ container : Container, container.className ∈ imported →
        ∃ target, Path.resolve (Path.ofString file.path) link.source = Path.ofString target ∧
          ∃ declaring ∈ sources, declaring.path = target ++ ".ts" ∧
            (declaring.source.class? container.className).isSome = true

/-- The relative imports and exports of a generated project resolve, and the classes of containers
are declared where alias files import them from. The generated files are the sources laid out. -/
theorem relative_links_resolve (settings : p.settings = .withContainers table iterable)
    (tableParts : table.HasMoveIdentifiers) (iterableParts : iterable.HasMoveIdentifiers)
    (reachable : p.catalog.Reachable) (declared : p.catalog.HasMoveIdentifiers)
    {files : List OutputFile} (generated : p.generate.1 = .ok files) :
    ∃ sources, (p.environment.projectSources p.catalog).outcome = .ok sources ∧
      sources.mapM (fun file => p.environment.layOut file.path file.source) = .ok files ∧
      ∀ file ∈ sources, p.PointsAtTargets (files.map OutputFile.path) file ∧
        ImportsDeclaredClasses sources file := by
  have w := wellNamed settings tableParts iterableParts reachable declared
  obtain ⟨sources, made, laidOut⟩ := generate_eq_ok_iff.mp generated
  refine ⟨sources, made, laidOut, ?_⟩
  rw [map_path_of_layOut laidOut]
  obtain ⟨run, rfl⟩ := w.projectSources_eq_ok_iff.mp made
  intro file member
  constructor
  · intro link has relative
    exact w.linkTarget_of_mem_sources (namesLibraries settings) run member has relative
  · intro stem ending link has imported binding container named
    exact w.exists_class_of_import run member ending has binding named

/-- The imports of a shop with the standard containers resolve. -/
theorem relative_links_resolve_shop :
    let p := shopProject ⟨"0x1", "IterableTable", "IterableTable"⟩
    ∃ files, p.generate.1 = .ok files ∧ ∃ sources,
      (p.environment.projectSources p.catalog).outcome = .ok sources ∧
      sources.mapM (fun file => p.environment.layOut file.path file.source) = .ok files ∧
      ∀ file ∈ sources, p.PointsAtTargets (files.map OutputFile.path) file ∧
        ImportsDeclaredClasses sources file := by
  intro p
  have succeeds : p.generate.1.isOk = true := by
    set_option maxRecDepth 10000 in decide
  obtain ⟨files, generated⟩ := exists_of_isOk succeeds
  exact ⟨files, generated, relative_links_resolve rfl (by decide) (by decide)
    (shopProject_reachable _) (shopProject_declared _) generated⟩

end Project

end MoveBindings
