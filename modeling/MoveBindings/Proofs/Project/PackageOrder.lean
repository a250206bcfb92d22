import MoveBindings.Proofs.Emission.Children
import MoveBindings.Proofs.Emission.PackageOrder
import MoveBindings.Proofs.Project.FirstFault

/-!
# The order of packages

A project may hold its packages in any order, as long as no module is listed by
two of them. In another order it is generated if and only if it is in the first,
with the same files and the same findings. Only the lines of the project's index
follow the order of the packages.
-/

namespace MoveBindings

namespace Catalog

variable {c other : Catalog}

/-- No module is listed by two packages. -/
def ListsOnce (c : Catalog) : Prop :=
  ∀ package ∈ c.packages, ∀ other ∈ c.packages, ∀ id,
    package.lists id = true → other.lists id = true → package = other

/-- Then the package of a module is the one that lists it. -/
theorem Reachable.find?_packageOf_eq_some_iff (h : c.Reachable) (once : c.ListsOnce)
    {id : ModuleId} {name : String} :
    c.packageOf.find? id = some name ↔
      ∃ package ∈ c.packages, package.name = name ∧ package.lists id = true := by
  constructor
  · exact h.exists_package
  · rintro ⟨package, declared, rfl, listed⟩
    cases found : c.packageOf.find? id with
    | none => simp [h.find?_eq_none_iff.mp found package declared] at listed
    | some name =>
      obtain ⟨holder, holds, rfl, alsoListed⟩ := h.exists_package found
      rw [once package declared holder holds id listed alsoListed]

theorem ListsOnce.perm (once : c.ListsOnce) (same : c.packages.Perm other.packages) :
    other.ListsOnce := by
  intro package declared second secondDeclared
  exact once package (same.mem_iff.mpr declared) second (same.mem_iff.mpr secondDeclared)

/-- The packages of modules do not depend on the order of packages. -/
theorem Reachable.find?_packageOf_perm (h : c.Reachable) (otherReachable : other.Reachable)
    (once : c.ListsOnce) (same : c.packages.Perm other.packages) (id : ModuleId) :
    c.packageOf.find? id = other.packageOf.find? id := by
  refine Option.ext fun name => ?_
  rw [h.find?_packageOf_eq_some_iff once,
    otherReachable.find?_packageOf_eq_some_iff (once.perm same)]
  simp only [same.mem_iff]

end Catalog

/-- Two lists of generated files at the same paths. Files at one path have the same content, but for
the index of the project, which has the same lines in another order. -/
structure SameContents (files others : List OutputFile) : Prop where
  paths : (files.map OutputFile.path).Perm (others.map OutputFile.path)
  contents : (files.filter fun file => file.path ≠ IndexFile.projectPath).Perm
    (others.filter fun file => file.path ≠ IndexFile.projectPath)
  index : ∃ text otherText,
    files.filter (fun file => file.path = IndexFile.projectPath) =
      [⟨IndexFile.projectPath, text⟩] ∧
    others.filter (fun file => file.path = IndexFile.projectPath) =
      [⟨IndexFile.projectPath, otherText⟩] ∧
    (Text.lines text).Perm (Text.lines otherText)

namespace Project

variable {p q : Project}

/-- The files of a project before its index are not at the path of the index. -/
theorem path_ne_projectPath (reachable : p.catalog.Reachable) {files : List OutputFile}
    {index : OutputFile} (generated : p.generate.1 = .ok (files ++ [index])) :
    ∀ file ∈ files, file.path ≠ IndexFile.projectPath := by
  intro file member
  obtain ⟨run, laidOut⟩ := exists_run_of_generate reachable generated
  have paths := map_path_of_layOut laidOut
  rw [run.map_path_sources_eq, List.map_append, List.map_singleton] at paths
  have found := List.mem_map_of_mem (f := OutputFile.path) member
  rw [List.append_inj_left' paths rfl, List.mem_append, List.mem_flatMap] at found
  have slash : '/' ∈ file.path.toList := by
    rcases found with ⟨package, _, inPackage⟩ | ofClass
    · rcases List.mem_append.mp inPackage with table | index
      · obtain ⟨name, _, same⟩ := List.mem_map.mp table
        simp [← same, MoveBindings.inPackage]
      · simp [List.mem_singleton.mp index, IndexFile.packagePath]
    · obtain ⟨container, _, same⟩ := List.mem_map.mp ofClass
      simp [← same, Environment.classPath, MoveBindings.inPackage]
  have bare : '/' ∉ IndexFile.projectPath.toList := by decide
  intro same
  rw [same] at slash
  exact bare slash

/-- Of files of which the last alone is at the path of a project's index, one is there. -/
theorem filter_projectPath {files : List OutputFile} (index : OutputFile)
    (here : index.path = IndexFile.projectPath)
    (apart : ∀ file ∈ files, file.path ≠ IndexFile.projectPath) :
    (files ++ [index]).filter (fun file => file.path ≠ IndexFile.projectPath) = files ∧
      (files ++ [index]).filter (fun file => file.path = IndexFile.projectPath) = [index] := by
  constructor
  · rw [List.filter_append, List.filter_eq_self.mpr (by simpa using apart)]
    simp [here]
  · rw [List.filter_append, List.filter_eq_nil_iff.mpr (by simpa using apart)]
    simp [here]

/-- Files in another order have the same contents when none of them but the last is at the path of a
project's index. -/
theorem sameContents_of_reordered {files others : List OutputFile}
    (h : Environment.Reordered files others) (reachable : p.catalog.Reachable)
    (otherReachable : q.catalog.Reachable) (generated : p.generate.1 = .ok files)
    (otherGenerated : q.generate.1 = .ok others) : SameContents files others := by
  cases h with
  | @intro files others text otherText same lines =>
    obtain ⟨rest, index⟩ := filter_projectPath ⟨IndexFile.projectPath, text⟩ rfl
      (path_ne_projectPath reachable generated)
    obtain ⟨otherRest, otherIndex⟩ := filter_projectPath ⟨IndexFile.projectPath, otherText⟩ rfl
      (path_ne_projectPath otherReachable otherGenerated)
    refine ⟨?_, ?_, text, otherText, index, otherIndex, lines⟩
    · rw [List.map_append, List.map_append]
      exact (same.map _).append_right _
    · rwa [rest, otherRest]

/-- When no module is listed by two packages, the order of packages decides neither whether a
project is generated, nor what is in its files and what is found on the way, but for the order of
lines in the project's index. -/
theorem package_order_irrelevant (settings : p.settings = q.settings)
    (reachable : p.catalog.Reachable) (otherReachable : q.catalog.Reachable)
    (same : p.catalog.packages.Perm q.catalog.packages) (once : p.catalog.ListsOnce) :
    ((∃ files, p.generate.1 = .ok files) ↔ ∃ files, q.generate.1 = .ok files) ∧
      ∀ files others, p.generate.1 = .ok files → q.generate.1 = .ok others →
        SameContents files others ∧ ∃ found otherFound,
          p.generate.2.log.entries = p.log.entries ++ found ∧
          q.generate.2.log.entries = q.log.entries ++ otherFound ∧ found.Perm otherFound := by
  have found := reachable.find?_packageOf_perm otherReachable once same
  have environment (r : Project) : r.environment =
      ({ settings := r.settings } : Environment).knowing r.catalog.packageOf := rfl
  have alike : Emission.Alike Environment.Reordered (p.environment.projectFiles p.catalog)
      (q.environment.projectFiles q.catalog) := by
    rw [environment p, environment q, settings]
    exact Environment.alike_projectFiles found same
  refine ⟨by rw [outcome_generate, outcome_generate]; exact alike.exists_ok_iff, ?_⟩
  intro files others generated otherGenerated
  obtain ⟨reordered, sameFound⟩ := alike.of_ok generated otherGenerated
  refine ⟨sameContents_of_reordered reordered reachable otherReachable generated otherGenerated,
    _, _, p.entries_generate, q.entries_generate, ?_⟩
  rwa [← found_projectFiles, ← found_projectFiles]

theorem fieldProject_listsOnce (params : List Tag) {places : List (String × String)}
    (different : (places.map Prod.snd).Nodup) :
    (fieldProject params places).catalog.ListsOnce := by
  have listed {place : String × String} {id : ModuleId}
      (lists : (fieldPackage params place).lists id = true) : id.name = place.2 := by
    rw [Package.lists_eq_true_iff] at lists
    rw [List.mem_singleton.mp lists]
    rfl
  intro package declared other otherDeclared id lists alsoLists
  obtain ⟨place, member, rfl⟩ := List.mem_map.mp declared
  obtain ⟨second, secondMember, rfl⟩ := List.mem_map.mp otherDeclared
  have names : place.2 = second.2 := (listed lists).symm.trans (listed alsoLists)
  rw [List.inj_on_of_nodup_map different member secondMember names]

/-- A shop and the depot that holds its items, in either order. -/
theorem package_order_irrelevant_shop :
    let p := fieldProject [.struct ⟨"0x2", "Market", "Item"⟩ [], .scalar "bool"]
      [("Shop", "Market"), ("Depot", "Stock")]
    let q := fieldProject [.struct ⟨"0x2", "Market", "Item"⟩ [], .scalar "bool"]
      [("Depot", "Stock"), ("Shop", "Market")]
    ∃ files others, p.generate.1 = .ok files ∧ q.generate.1 = .ok others ∧
      SameContents files others := by
  intro p q
  have same : p.catalog.packages.Perm q.catalog.packages := .swap _ _ _
  have once : p.catalog.ListsOnce := fieldProject_listsOnce _ (by decide)
  have item : Tag.WellFormed (.struct ⟨"0x2", "Market", "Item"⟩ []) :=
    .struct (by decide) (by decide) (by decide) (by decide) (by decide) nofun
  have formed := List.forall_mem_cons.mpr ⟨item, scalars_wellFormed ["bool"] (by decide)⟩
  have reachable : p.catalog.Reachable :=
    (fieldProject_discovered formed (by decide) (by decide)).reachable
  have otherReachable : q.catalog.Reachable :=
    (fieldProject_discovered formed (by decide) (by decide)).reachable
  have irrelevant := package_order_irrelevant (p := p) (q := q) rfl reachable otherReachable
    same once
  have succeeds : p.generate.1.isOk = true := by
    set_option maxRecDepth 10000 in decide
  obtain ⟨files, generated⟩ := exists_of_isOk succeeds
  obtain ⟨others, otherGenerated⟩ := irrelevant.1.mp ⟨files, generated⟩
  exact ⟨files, others, generated, otherGenerated,
    (irrelevant.2 files others generated otherGenerated).1⟩

end Project

end MoveBindings
