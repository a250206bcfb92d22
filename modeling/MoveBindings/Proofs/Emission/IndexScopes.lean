import MoveBindings.Proofs.Emission.IndexNames
import MoveBindings.Proofs.Path.Package

/-!
# What names mean in an index

An index binds the class of parser collections, its children and its functions.
No binding is repeated, also where names meet, since children come from
different sources. So a name denotes a child when nothing else has that name.
-/

namespace MoveBindings

open TypeScript

namespace Environment

open IndexFile

variable (env : Environment)

/-- The imports of an index are followed by what else it declares. -/
theorem function?_childLinks_append (children : List Child) (rest : List Node) (name : String) :
    Script.function? ⟨env.childLinks children ++ rest⟩ name = Script.function? ⟨rest⟩ name := by
  have noFunction : children.findSome? (fun _ => (none : Option Function)) = none :=
    List.findSome?_eq_none_iff.mpr fun _ _ => rfl
  simp [Script.function?, childLinks, List.findSome?_append, List.findSome?_map, Function.comp_def,
    noFunction]

/-- What an index binds besides the functions: the class of parser collections and the children. -/
theorem scope_childLinks {children : List Child}
    (named : ∀ child ∈ children, child.boundName ≠ "") :
    Script.scope ⟨env.childLinks children⟩ =
      (parserRepo, .part env.settings.runtimeModule) :: children.map Child.binding := by
  have scopes : (children.map Child.link).flatMap Link.scope = children.map Child.binding := by
    rw [List.flatMap_map, List.map_eq_flatMap]
    exact List.flatMap_congr fun child member => Child.scope_link (named child member)
  simp only [childLinks, List.cons_append, Script.scope_importFrom, Script.scope_append,
    Script.scope_map_importFrom, Script.scope_map_exportFrom, scopes, List.append_nil]
  rfl

theorem boundName_moduleEntry (name : String) :
    (env.moduleEntry name).boundName = Entry.boundName env.settings.naming ⟨name, "_"⟩ := by
  rw [Entry.boundName, String.append_assoc]
  rfl

theorem boundName_companionEntry (stem : String) :
    (env.companionEntry stem).boundName =
      Entry.boundName env.settings.naming (Entry.ofStem stem) := rfl

theorem scope_packageScript (modules : List ModuleId) (companions : List String) :
    (env.packageScript modules companions).scope =
      (parserRepo, .part env.settings.runtimeModule) ::
        (env.packageChildren modules companions).map Child.binding ++
          [("loadParsers", .declared), ("getPackageRepo", .declared)] := by
  rw [packageScript, Script.scope_append,
    env.scope_childLinks fun child member => env.boundName_ne_empty_of_mem member]
  rfl

variable {env}

theorem scope_projectScript (naming : env.settings.naming = .standard) {packages : List String}
    (proper : ∀ name ∈ packages, IsMoveIdentifier name) :
    (env.projectScript packages).scope =
      (parserRepo, .part env.settings.runtimeModule) ::
        (packages.map env.packageEntry).map Child.binding ++ [("getProjectRepo", .declared)] := by
  have named : ∀ child ∈ packages.map env.packageEntry, child.boundName ≠ "" := by
    intro child member
    obtain ⟨name, inPackages, rfl⟩ := List.mem_map.mp member
    rw [packageEntry, naming]
    exact (proper name inPackages).identifier_standard.ne_empty
  rw [projectScript, Script.scope_append, env.scope_childLinks named]
  rfl

/-- A file beside a module is never taken for a module: it has another name or another source. -/
theorem moduleEntry_ne_companionEntry {name stem : String} (proper : IsMoveIdentifier name) :
    env.moduleEntry name ≠ env.companionEntry stem := by
  intro same
  have equal : name = stem := (String.append_right_inj "./").mp (congrArg Child.source same)
  subst equal
  have whole : Entry.ofStem name = ⟨name, ""⟩ := by
    rw [Entry.ofStem, Text.cutAt_of_notMem proper.no_dot]
    dsimp only
    rw [String.ofList_toList]
  have boundNames := congrArg Child.boundName same
  rw [boundName_moduleEntry, boundName_companionEntry, whole, Entry.boundName, Entry.boundName,
    String.append_right_inj] at boundNames
  have different : ("_" : String) ≠ "" := by decide
  exact different boundNames

/-- Children with different names come from different sources. -/
theorem injective_of_source {childOf : String → Child}
    (source : ∀ name, (childOf name).source = "./" ++ name) : Function.Injective childOf := by
  intro a b same
  have sources := congrArg Child.source same
  rwa [source, source, String.append_right_inj] at sources

theorem nodup_children {childOf : String → Child} {names : List String} (once : names.Nodup)
    (source : ∀ name, (childOf name).source = "./" ++ name) : (names.map childOf).Nodup :=
  once.map (injective_of_source source)

theorem moduleEntry_injective (env : Environment) : Function.Injective env.moduleEntry :=
  injective_of_source fun _ => rfl

theorem packageEntry_injective (env : Environment) : Function.Injective env.packageEntry :=
  injective_of_source fun _ => rfl

/-- No binding of an index is repeated, whatever names meet. -/
theorem nodup_scope {children : List Child} (once : children.Nodup) {functions : List String}
    (functionsOnce : functions.Nodup) (source : String) :
    ((parserRepo, Meaning.part source) :: children.map Child.binding ++
      functions.map fun name => (name, Meaning.declared)).Nodup := by
  have bindings : (children.map Child.binding).Nodup := once.map Child.binding_injective
  have declared : (functions.map fun name => (name, Meaning.declared)).Nodup :=
    functionsOnce.map fun _ _ same => congrArg Prod.fst same
  have apart : ∀ a ∈ children.map Child.binding,
      ∀ b ∈ functions.map fun name => (name, Meaning.declared), a ≠ b := by
    intro a fromChild b fromFunction same
    obtain ⟨child, _, rfl⟩ := List.mem_map.mp fromChild
    obtain ⟨name, _, rfl⟩ := List.mem_map.mp fromFunction
    cases congrArg Prod.snd same
  rw [List.cons_append, List.nodup_cons]
  refine ⟨?_, List.nodup_append.mpr ⟨bindings, declared, apart⟩⟩
  simp [Child.binding]

/-- In an index a name denotes the child that is bound to it exactly when the function and the index
do not bind it themselves and no other child has it. -/
theorem denotes_child_iff {file : Script} {function : Function} {children : List Child}
    {functions : List String} {source : String} (once : children.Nodup)
    (functionsOnce : functions.Nodup)
    (scope : file.scope = (parserRepo, .part source) :: children.map Child.binding ++
      functions.map fun name => (name, .declared))
    {child : Child} (member : child ∈ children) :
    file.Denotes function child.boundName child.source ↔
      child.boundName ∉ function.localNames ++ parserRepo :: functions ∧
        ∀ other ∈ children, other.boundName = child.boundName → other = child := by
  have unrepeated : file.scope.Nodup := scope ▸ nodup_scope once functionsOnce source
  have bound : child.binding ∈ file.scope := by
    rw [scope]
    simp [List.mem_map_of_mem member]
  rw [Script.denotes_iff unrepeated bound, scope, List.mem_append, not_or, and_assoc]
  refine and_congr_right fun _ => ?_
  constructor
  · intro only
    constructor
    · simp only [List.mem_cons, not_or]
      refine ⟨fun same => ?_, fun declared => ?_⟩
      · cases congrArg Prod.snd (only (parserRepo, .part source) (by simp) same.symm)
      · cases congrArg Prod.snd (only (child.boundName, .declared) (by simp [declared]) rfl)
    · intro other others same
      have found : other.binding ∈ (parserRepo, .part source) :: children.map Child.binding ++
          functions.map fun name => (name, .declared) := by
        simp [List.mem_map_of_mem others]
      exact Child.binding_injective (only other.binding found same)
  · rintro ⟨free, only⟩ entry found same
    simp only [List.mem_cons, not_or] at free
    rw [List.cons_append, List.mem_cons, List.mem_append] at found
    rcases found with rfl | fromChild | fromFunction
    · exact absurd same.symm free.1
    · obtain ⟨other, others, rfl⟩ := List.mem_map.mp fromChild
      exact congrArg Child.binding (only other others same)
    · obtain ⟨name, declared, rfl⟩ := List.mem_map.mp fromFunction
      exact absurd (same ▸ declared) free.2

theorem nodup_packageChildren {modules : List ModuleId} {companions : List String}
    (proper : ∀ id ∈ modules, IsMoveIdentifier id.name)
    (once : (modules.map ModuleId.name).Nodup) (companionsOnce : companions.Nodup) :
    (env.packageChildren modules companions).Nodup := by
  refine List.nodup_append.mpr
    ⟨nodup_children once fun _ => rfl, nodup_children companionsOnce fun _ => rfl, ?_⟩
  intro module fromModules companion fromCompanions
  simp only [List.mem_map] at fromModules fromCompanions
  obtain ⟨_, ⟨id, ids, rfl⟩, rfl⟩ := fromModules
  obtain ⟨stem, _, rfl⟩ := fromCompanions
  exact moduleEntry_ne_companionEntry (proper id ids)

end Environment

end MoveBindings
