import MoveBindings.Proofs.Emission.ModuleNamespaces
import MoveBindings.Proofs.Project.FieldProjects
import MoveBindings.Proofs.Project.Runs

/-!
# The namespaces of modules in a generated project

A module has two names in generated files. Indexes and the class of the iterable
table import it under its identifier, alias files under its own name, which is
also the name that types in these files have. They agree as long as no alias
file refers to a module whose name is not an identifier already.
-/

namespace MoveBindings

open TypeScript

namespace Environment

variable {env : Environment} {name : QualifiedName}

/-- The namespace of an index is the one in the type of a struct exactly when the name of the module
is its own identifier. -/
theorem safeNamespace_eq_typeName_iff (known : env.modules.contains name.moduleId = true)
    (params : List Tag) (location : String) :
    (env.safeNamespace name.module location).outcome.map (· ++ "." ++ name.name) =
        .ok (typeName env.modules (.struct name params)) ↔
      env.settings.naming.identifier name.module = name.module := by
  have safe : (env.safeNamespace name.module location).outcome =
      .ok (namespaceAlias (env.settings.naming.identifier name.module)) := by
    simp [safeNamespace, outcome_identifier]
  have type : typeName env.modules (.struct name params) =
      namespaceAlias name.module ++ "." ++ name.name := if_pos known
  rw [safe, type, Except.map, Except.ok.injEq, String.append_left_inj, String.append_left_inj,
    namespaceAlias_injective.eq_iff]

end Environment

namespace Project

variable {p : Project}

/-- How the files of a project name the modules that they import. Alias files go by the names of
modules, all other files by identifiers (`imports`). Going by identifiers everywhere would be the
same exactly when no alias file refers to a module that has another identifier (`uniform`), and the
types in alias files go with their imports (`types`). -/
structure NamesModules (p : Project) (sources : List SourceAt) : Prop where
  imports : sources.map SourceAt.wholes = p.environment.allWholes p.catalog id
  uniform : sources.map SourceAt.wholes =
      p.environment.allWholes p.catalog p.settings.naming.identifier ↔
    ∀ package ∈ p.catalog.packages, ∀ module ∈ package.modules,
      module.hasContainerFields p.settings = true →
        ∀ id ∈ p.environment.referenced module, p.settings.naming.identifier id.name = id.name
  types : ∀ (name : QualifiedName) params location,
    p.environment.modules.contains name.moduleId = true →
      ((p.environment.safeNamespace name.module location).outcome.map (· ++ "." ++ name.name) =
          .ok (typeName p.environment.modules (.struct name params)) ↔
        p.settings.naming.identifier name.module = name.module)

/-- In a project that is generated alias files name modules by their names, all other files by
identifiers. -/
theorem module_namespaces (reachable : p.catalog.Reachable) {files : List OutputFile}
    (generated : p.generate.1 = .ok files) :
    ∃ sources, (p.environment.projectSources p.catalog).outcome = .ok sources ∧
      sources.mapM (fun file => p.environment.layOut file.path file.source) = .ok files ∧
      p.NamesModules sources := by
  obtain ⟨run, laidOut⟩ := exists_run_of_generate reachable generated
  have made := (Environment.projectSources_eq_ok_iff rfl reachable.names_nodup).mpr ⟨run, rfl⟩
  refine ⟨run.sources, made, laidOut, run.map_wholes_sources, ?_, ?_⟩
  · rw [run.map_wholes_sources, eq_comm]
    exact Environment.allWholes_eq_iff
  · intro name params location known
    exact Environment.safeNamespace_eq_typeName_iff known params location

/-- A package with a module `new`, and a package that refers to it. -/
theorem module_namespaces_new :
    let p := fieldProject [.struct ⟨"0x2", "new", "Item"⟩ [], .scalar "bool"]
      [("Shop", "Market"), ("Depot", "new")]
    ∃ files, p.generate.1 = .ok files ∧ ∃ sources : List SourceAt,
      sources.mapM (fun file => p.environment.layOut file.path file.source) = .ok files ∧
      sources.map SourceAt.wholes =
        [ ("Shop/Market.tables.ts", [("new$_", "../Depot/new")]),
          ("Shop/index.ts", [("Market$_", "./Market"), ("Market$tables", "./Market.tables")]),
          ("Depot/new.tables.ts", [("new$_", "./new")]),
          ("Depot/index.ts", [("new__$_", "./new"), ("new__$tables", "./new.tables")]),
          ("Std/Table.accessors.ts", [("$", p.settings.runtimeModule)]),
          ("index.ts", [("Shop", "./Shop"), ("Depot", "./Depot")]) ] ∧
      sources.map SourceAt.wholes ≠
        p.environment.allWholes p.catalog p.settings.naming.identifier := by
  intro p
  have item : (Tag.struct ⟨"0x2", "new", "Item"⟩ []).WellFormed :=
    .struct (by decide) (by decide) (by decide) (by decide) (by decide) nofun
  have discovered : p.catalog.Discovered := by
    refine fieldProject_discovered ?_ (by decide) (by decide)
    intro param member
    rcases List.mem_pair.mp member with rfl | rfl
    · exact item
    · exact .scalar (by decide)
  have succeeds : p.generate.1.isOk = true := by
    set_option maxRecDepth 10000 in decide
  obtain ⟨files, generated⟩ := exists_of_isOk succeeds
  obtain ⟨sources, _, laidOut, named⟩ := module_namespaces discovered.reachable generated
  refine ⟨files, generated, sources, laidOut, ?_, ?_⟩
  · rw [named.imports]
    decide
  · intro same
    have unchanged := named.uniform.mp same _ List.mem_cons_self _ List.mem_cons_self (by decide)
      ⟨"0x2", "new"⟩ (by decide)
    exact absurd unchanged (by decide)

end Project

end MoveBindings
