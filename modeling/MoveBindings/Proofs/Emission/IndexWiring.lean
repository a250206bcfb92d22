import Mathlib.Logic.Equiv.Fin.Rotate
import MoveBindings.Proofs.Emission.LoadCalls
import MoveBindings.Proofs.Emission.ModuleNamespaces
import MoveBindings.Proofs.Emission.Repeats
import MoveBindings.Proofs.PermutedBy

/-!
# How an index wires its children

An index is refused for the first child that occurs again. Otherwise it imports
its children and exports the same ones, and a function of it loads the parsers
of modules or packages, but not of the files beside modules. All of this is done
child by child and in the order in which the children are given, so when they
change places, the imports, exports and calls change places with them.
-/

namespace MoveBindings

open TypeScript

namespace IndexFile

/-- A function that loads parsers: its name, and what it does before and after the calls. -/
structure Loader where
  name : String
  first : List Statement
  last : List Statement

/-- The function of a package's index only makes the calls. -/
def packageLoader : Loader := ⟨"loadParsers", [], []⟩

/-- The function of the project's index makes a collection of parsers, and completes and returns it
after the calls. -/
def projectLoader : Loader where
  name := "getProjectRepo"
  first := [.line "const repo = new AptosParserRepo();"]
  last := [.line "repo.addDefaultParsers();", .line "return repo;"]

/-- The call for the parsers of what a link imports. -/
def loadCall (link : String × String) : Statement := .line (link.1 ++ ".loadParsers(repo);")

/-- What a file imports and exports as a whole, and the calls that its function makes. -/
structure IsWired (loader : Loader) (links : List (String × String)) (calls : List Statement)
    (file : Script) : Prop where
  imports : file.wholes = links
  exports : file.exports.filterMap Link.whole? = links
  calls : ∃ function, file.function? loader.name = some function ∧
    function.body = loader.first ++ calls ++ loader.last

/-- Two files are wired alike but for the order: in the second, imports and exports have changed
places by one permutation, and calls by another. -/
def WiredInOtherOrder (loader : Loader) {n m : Nat} (linkOrder : Equiv.Perm (Fin n))
    (callOrder : Equiv.Perm (Fin m)) (file other : Script) : Prop :=
  ∃ links calls otherLinks otherCalls,
    IsWired loader links calls file ∧ IsWired loader otherLinks otherCalls other ∧
    PermutedBy linkOrder links otherLinks ∧ PermutedBy callOrder calls otherCalls

end IndexFile

namespace Environment

open IndexFile

variable (env : Environment)

/-- The names and sources of modules in the index of their package. -/
def moduleLinksInIndex (modules : List ModuleId) : List (String × String) :=
  modules.map fun id => (env.settings.naming.identifier id.name ++ "$_", "./" ++ id.name)

/-- The names and sources of the files beside modules. A file's name goes on after the module's with
a dot, and so does the name that it is bound to with a dollar sign. -/
def companionLinks (companions : List String) : List (String × String) :=
  companions.map fun stem =>
    let (module, kind) := Text.cutAt '.' stem.toList
    (env.settings.naming.identifier (String.ofList module) ++ "$" ++ String.ofList kind,
      "./" ++ stem)

/-- The names and sources of packages in the index of the project. -/
def packageLinks (packages : List String) : List (String × String) :=
  packages.map fun name => (env.settings.naming.identifier name, "./" ++ name)

/-- An index of a package wires modules and the files beside them, and loads the modules. -/
def IsPackageWiring (modules : List ModuleId) (companions : List String) : Script → Prop :=
  IsWired packageLoader (env.moduleLinksInIndex modules ++ env.companionLinks companions)
    ((env.moduleLinksInIndex modules).map loadCall)

/-- An index of a project wires packages and loads them into a new collection of parsers. -/
def IsProjectWiring (packages : List String) : Script → Prop :=
  IsWired projectLoader (env.packageLinks packages) ((env.packageLinks packages).map loadCall)

theorem isPackageWiring_packageScript (modules : List ModuleId) (companions : List String) :
    env.IsPackageWiring modules companions (env.packageScript modules companions) := by
  have links : (env.packageScript modules companions).wholes =
      env.moduleLinksInIndex modules ++ env.companionLinks companions :=
    wholes_packageScript modules companions
  have calls : ((modules.map ModuleId.name).map env.moduleEntry).map loadStatement =
      (env.moduleLinksInIndex modules).map loadCall := by
    rw [moduleLinksInIndex, List.map_map, List.map_map, List.map_map]
    rfl
  refine ⟨links, ?_, _, env.function?_packageScript modules companions, ?_⟩
  · rw [← links, Script.wholes, imports_packageScript, exports_packageScript]
    rfl
  · rw [loadParsers, calls]
    exact (List.append_nil _).symm

theorem isProjectWiring_projectScript {packages : List String}
    (named : ∀ name ∈ packages, env.settings.naming.identifier name ≠ "") :
    env.IsProjectWiring packages (env.projectScript packages) := by
  have links : (env.projectScript packages).wholes = env.packageLinks packages := by
    rw [wholes_projectScript, List.filterMap_map, packageLinks, ← List.filterMap_eq_map]
    exact List.filterMap_congr fun name member => if_neg (named name member)
  have calls : (packages.map env.packageEntry).map loadStatement =
      (env.packageLinks packages).map loadCall := by
    rw [packageLinks, List.map_map, List.map_map]
    rfl
  refine ⟨links, ?_, _, function?_projectScript packages, ?_⟩
  · rw [← links, Script.wholes, imports_projectScript, exports_projectScript]
    rfl
  · rw [getProjectRepo, calls]
    rfl

/-- The index of a project is refused for a package that is repeated. -/
theorem projectIndex_eq_error_iff {packages : List String} {failure : Failure} :
    (env.projectIndex packages).outcome = .error failure ↔
      ∃ name, FirstRepeated packages name ∧ failure = .duplicate ⟨"package", name, ""⟩ := by
  have children := Emission.outcome_mapM_of_ok env.outcome_packageChild packages
  simp only [projectIndex, Emission.outcome_bind_eq_error_iff, Emission.outcome_ofExcept,
    distinct_eq_error_iff, children, Emission.outcome_pure]
  simp

/-- The index of a package is refused when something is repeated, and only then. -/
theorem exists_packageIndex_eq_error_iff {package : String} {modules : List ModuleId}
    {companions : List String} :
    (∃ failure, (env.packageIndex package modules companions).outcome = .error failure) ↔
      ¬((modules.map ModuleId.name).Nodup ∧ companions.Nodup) := by
  constructor
  · rintro ⟨failure, refused⟩ ⟨once, companionsOnce⟩
    rw [env.packageIndex_eq_ok_iff.mpr ⟨once, companionsOnce, rfl⟩] at refused
    cases refused
  · intro twice
    obtain ⟨repeated, refused⟩ := env.exists_packageIndex_eq_error twice
    exact ⟨_, refused⟩

theorem exists_projectIndex_eq_error_iff {packages : List String} :
    (∃ failure, (env.projectIndex packages).outcome = .error failure) ↔ ¬packages.Nodup := by
  constructor
  · rintro ⟨failure, refused⟩ once
    rw [env.projectIndex_eq_ok_iff.mpr ⟨once, rfl⟩] at refused
    cases refused
  · intro twice
    obtain ⟨repeated, refused⟩ := env.exists_projectIndex_eq_error twice
    exact ⟨_, refused⟩

variable {n m : Nat} {order : Equiv.Perm (Fin n)} {fileOrder : Equiv.Perm (Fin m)}

/-- Modules and files beside them that change places take their links and calls with them. -/
theorem packageIndex_permuted {package : String} {modules reordered : List ModuleId}
    {companions reorderedFiles : List String} (moved : PermutedBy order modules reordered)
    (filesMoved : PermutedBy fileOrder companions reorderedFiles) {script : Script}
    (made : (env.packageIndex package modules companions).outcome = .ok script) :
    ∃ other, (env.packageIndex package reordered reorderedFiles).outcome = .ok other ∧
      WiredInOtherOrder packageLoader (sideBySide order fileOrder) order script other := by
  obtain ⟨once, companionsOnce, rfl⟩ := env.packageIndex_eq_ok_iff.mp made
  have reorderedOnce := ((moved.map ModuleId.name).perm.nodup_iff).mpr once
  have reorderedFilesOnce := filesMoved.perm.nodup_iff.mpr companionsOnce
  refine ⟨_, env.packageIndex_eq_ok_iff.mpr ⟨reorderedOnce, reorderedFilesOnce, rfl⟩, _, _, _, _,
    env.isPackageWiring_packageScript modules companions,
    env.isPackageWiring_packageScript reordered reorderedFiles, ?_, ?_⟩
  · exact (moved.map _).append (filesMoved.map _)
  · exact (moved.map _).map loadCall

/-- Packages that change places take their links and calls with them. -/
theorem projectIndex_permuted {packages reordered : List String}
    (named : ∀ name ∈ packages, env.settings.naming.identifier name ≠ "")
    (moved : PermutedBy order packages reordered) {script : Script}
    (made : (env.projectIndex packages).outcome = .ok script) :
    ∃ other, (env.projectIndex reordered).outcome = .ok other ∧
      WiredInOtherOrder projectLoader order order script other := by
  obtain ⟨once, rfl⟩ := env.projectIndex_eq_ok_iff.mp made
  have reorderedOnce := moved.perm.nodup_iff.mpr once
  have reorderedNamed : ∀ name ∈ reordered, env.settings.naming.identifier name ≠ "" :=
    fun name member => named name (moved.perm.mem_iff.mp member)
  refine ⟨_, env.projectIndex_eq_ok_iff.mpr ⟨reorderedOnce, rfl⟩, _, _, _, _,
    env.isProjectWiring_projectScript named, env.isProjectWiring_projectScript reorderedNamed,
    moved.map _, ?_⟩
  exact (moved.map _).map loadCall

/-- An index is refused exactly when a child is repeated, and for the first one that is. Otherwise
the children are imported and exported alike, and the modules or packages among them are loaded, one
by one and in order. Children that change places take their imports, exports and calls with
them. -/
theorem index_wired_in_order (env : Environment) :
    (∀ (package : String) (modules : List ModuleId) (companions : List String),
      let names := modules.map ModuleId.name
      let outcome := (env.packageIndex package modules companions).outcome
      ((∃ failure, outcome = .error failure) ↔ ¬(names.Nodup ∧ companions.Nodup)) ∧
      (∀ failure, outcome = .error failure ↔
        (∃ name, FirstRepeated names name ∧ failure = .duplicate ⟨"module", name, package⟩) ∨
        names.Nodup ∧ ∃ stem, FirstRepeated companions stem ∧
          failure = .duplicate ⟨"file", stem, package⟩) ∧
      ∀ script, outcome = .ok script →
        env.IsPackageWiring modules companions script ∧
        ∀ {n m : Nat} (order : Equiv.Perm (Fin n)) (fileOrder : Equiv.Perm (Fin m))
          (reordered : List ModuleId) (reorderedFiles : List String),
          PermutedBy order modules reordered → PermutedBy fileOrder companions reorderedFiles →
            ∃ other, (env.packageIndex package reordered reorderedFiles).outcome = .ok other ∧
              WiredInOtherOrder packageLoader (sideBySide order fileOrder) order
                script other) ∧
    ∀ packages : List String, (∀ name ∈ packages, env.settings.naming.identifier name ≠ "") →
      let outcome := (env.projectIndex packages).outcome
      ((∃ failure, outcome = .error failure) ↔ ¬packages.Nodup) ∧
      (∀ failure, outcome = .error failure ↔
        ∃ name, FirstRepeated packages name ∧ failure = .duplicate ⟨"package", name, ""⟩) ∧
      ∀ script, outcome = .ok script →
        env.IsProjectWiring packages script ∧
        ∀ {n : Nat} (order : Equiv.Perm (Fin n)) (reordered : List String),
          PermutedBy order packages reordered →
            ∃ other, (env.projectIndex reordered).outcome = .ok other ∧
              WiredInOtherOrder projectLoader order order
                script other := by
  constructor
  · intro package modules companions
    refine ⟨env.exists_packageIndex_eq_error_iff, fun _ => env.packageIndex_eq_error_iff, ?_⟩
    intro script made
    refine ⟨?_, fun _ _ _ _ moved filesMoved => env.packageIndex_permuted moved filesMoved made⟩
    obtain ⟨_, _, rfl⟩ := env.packageIndex_eq_ok_iff.mp made
    exact env.isPackageWiring_packageScript modules companions
  · intro packages named
    refine ⟨env.exists_projectIndex_eq_error_iff, fun _ => env.projectIndex_eq_error_iff, ?_⟩
    intro script made
    refine ⟨?_, fun _ _ moved => env.projectIndex_permuted named moved made⟩
    obtain ⟨_, rfl⟩ := env.projectIndex_eq_ok_iff.mp made
    exact env.isProjectWiring_projectScript named

/-- Two modules that change places, one of them with a reserved name, beside a file that stays; and
three packages that move up, with the function that loads them. -/
theorem index_wired_in_order_shop :
    let env : Environment := {}
    let modules : List ModuleId := [⟨"0x2", "Market"⟩, ⟨"0x2", "new"⟩]
    let reordered : List ModuleId := [⟨"0x2", "new"⟩, ⟨"0x2", "Market"⟩]
    let files := ["Market.tables"]
    let packages := ["Std", "Shop", "for"]
    let moved := ["Shop", "for", "Std"]
    let index := env.packageScript modules files
    let project := env.projectScript packages
    ((env.packageIndex "Shop" modules files).outcome = .ok index ∧
      PermutedBy (Equiv.swap (0 : Fin 2) 1) modules reordered ∧
      PermutedBy (Equiv.refl (Fin 1)) files files ∧
      ∃ other, (env.packageIndex "Shop" reordered files).outcome = .ok other ∧
        WiredInOtherOrder packageLoader (sideBySide (Equiv.swap (0 : Fin 2) 1)
          (Equiv.refl (Fin 1))) (Equiv.swap (0 : Fin 2) 1) index other) ∧
    (∀ name ∈ packages, env.settings.naming.identifier name ≠ "") ∧
    (env.projectIndex packages).outcome = .ok project ∧
    (project.function? "getProjectRepo").map Function.body =
      some [.line "const repo = new AptosParserRepo();", .line "Std.loadParsers(repo);",
        .line "Shop.loadParsers(repo);", .line "for__.loadParsers(repo);",
        .line "repo.addDefaultParsers();", .line "return repo;"] ∧
    PermutedBy (finRotate 3) packages moved ∧
    ∃ other, (env.projectIndex moved).outcome = .ok other ∧
      WiredInOtherOrder projectLoader (finRotate 3) (finRotate 3)
        project other := by
  intro env modules reordered files packages moved index project
  have madeIndex : (env.packageIndex "Shop" modules files).outcome = .ok index :=
    env.packageIndex_eq_ok_iff.mpr ⟨by decide, by decide, rfl⟩
  have madeProject : (env.projectIndex packages).outcome = .ok project :=
    env.projectIndex_eq_ok_iff.mpr ⟨by decide, rfl⟩
  have swapped : PermutedBy (Equiv.swap (0 : Fin 2) 1) modules reordered := .ofFn ![_, _]
  have kept : PermutedBy (Equiv.refl (Fin 1)) files files := .ofFn ![_]
  have rotated : PermutedBy (finRotate 3) packages moved := .ofFn ![_, _, _]
  have named : ∀ name ∈ packages, env.settings.naming.identifier name ≠ "" := by decide
  have entries : packages.map env.packageEntry =
      [⟨"Std", "./Std"⟩, ⟨"Shop", "./Shop"⟩, ⟨"for__", "./for"⟩] := by decide
  have loads : project.function? "getProjectRepo" = some (getProjectRepo _) :=
    entries ▸ function?_projectScript packages
  refine ⟨⟨madeIndex, swapped, kept, ?_⟩, named, madeProject, ?_, rotated, ?_⟩
  · have law := (index_wired_in_order env).1 "Shop" modules files
    exact (law.2.2 index madeIndex).2 _ _ reordered files swapped kept
  · rw [loads]
    rfl
  · have law := (index_wired_in_order env).2 packages named
    exact (law.2.2 project madeProject).2 _ moved rotated

end Environment

end MoveBindings
