import MoveBindings.Proofs.Emission.RunFaults

/-!
# The alias files of a run in order

Each module with container fields has one alias file, and these are all files
with their ending, in the order of the modules. The aliases of a file are those
of the container fields as they are declared, one by one.
-/

namespace MoveBindings

open TypeScript

/-- The alias of a declared field: named by its struct and itself, and of the class of its container
for the types of its two parameters. -/
structure Member.AliasedAs (env : Environment) (member : Member) (declared : TypeAlias) : Prop where
  name : declared.name = env.settings.naming.identifier member.struct.name ++ "$" ++
    env.settings.naming.identifier member.field.name
  value : ∃ (type : QualifiedName) (key value : Tag) (className : String),
    member.field.type = .struct type [key, value] ∧
    (type.text = env.settings.tableName ∧ className = "TypedTable" ∨
      type.text = env.settings.iterableTableName ∧ className = "TypedIterableTable") ∧
    declared.value = className ++ "<" ++ typeName env.modules key ++ ", " ++
      typeName env.modules value ++ ">"
  exported : declared.exported = true

/-- A field that is found has a container's type for its keys and values. -/
theorem Member.FoundAs.exists_type {settings : Settings} {member : Member}
    {found : ContainerField} (h : member.FoundAs settings found) :
    ∃ type, member.field.type = .struct type [found.key, found.value] ∧
      type.text = found.container.configuredName settings := by
  obtain ⟨type, params, shape, named⟩ := Container.claims_eq_true_iff.mp h.claimed
  have given : params = [found.key, found.value] := by rw [← h.params, shape]; rfl
  exact ⟨type, given ▸ shape, named⟩

/-- The path of a file says that it holds aliases. -/
def hasAliasPath (path : String) : Bool := ".tables.ts".toList.isSuffixOf path.toList

theorem hasAliasPath_eq_true_iff {path : String} :
    hasAliasPath path = true ↔ ∃ stem, path = stem ++ ".tables.ts" := by
  rw [hasAliasPath, List.isSuffixOf_iff_suffix]
  constructor
  · rintro ⟨stem, same⟩
    refine ⟨String.ofList stem, String.toList_inj.mp ?_⟩
    rw [String.toList_append, String.toList_ofList, same]
  · rintro ⟨stem, rfl⟩
    exact ⟨stem.toList, String.toList_append.symm⟩

namespace Environment

variable {env : Environment} {catalog : Catalog} {names : Container → QualifiedName}
  {fields : List ContainerField}

/-- The aliases of the fields that are found are those of the declared ones. -/
theorem aliasedAs_of_found {module : Module} (described : module.Described)
    (found : List.Forall₂ (Member.FoundAs env.settings)
      (module.containerMembers env.settings) fields) :
    List.Forall₂ (Member.AliasedAs env) (module.containerMembers env.settings)
      (fields.map env.aliasOf) := by
  rw [List.forall₂_map_right_iff]
  refine (related_mem found).imp ?_
  rintro member field ⟨declared, foundAs⟩
  obtain ⟨inStructs, _⟩ := Module.mem_members_iff.mp (List.mem_filter.mp declared).1
  obtain ⟨type, typed, claimed⟩ := foundAs.exists_type
  have classed : type.text = env.settings.tableName ∧ field.container.className = "TypedTable" ∨
      type.text = env.settings.iterableTableName ∧
        field.container.className = "TypedIterableTable" := by
    cases container : field.container with
    | table =>
      rw [container] at claimed
      exact .inl ⟨claimed, rfl⟩
    | iterableTable =>
      rw [container] at claimed
      exact .inr ⟨claimed, rfl⟩
  refine ⟨?_, ⟨type, field.key, field.value, field.container.className, typed, classed, rfl⟩, rfl⟩
  have named : field.owner ≠ "" := foundAs.owner ▸ described.named _ inStructs
  rw [aliasOf, aliasName, if_neg named, foundAs.owner, foundAs.fieldName]

/-- The modules of a package with container fields have alias files, in order. -/
theorem aliasFiles_of_modules {package : String} {modules : List Module}
    {results : List (Option ModuleAliases)}
    (h : List.Forall₂ (MakesAliases env package) modules results) :
    List.Forall₂ (fun module file => MakesAliases env package module (some file))
      (modules.filter (Module.hasContainerFields env.settings)) (results.filterMap id) := by
  induction h with
  | nil => exact .nil
  | @cons module _ _ _ made _ ih =>
    cases made with
    | none found =>
      have none : ¬module.hasContainerFields env.settings = true := by
        rw [Module.hasContainerFields_eq_true_iff, not_not]
        exact moduleContainerFields_eq_ok_nil_iff.mp found
      rw [List.filter_cons_of_neg none]
      exact ih
    | some found used made =>
      have some : module.hasContainerFields env.settings = true := by
        rw [Module.hasContainerFields_eq_true_iff]
        intro none
        have nothing := moduleContainerFields_eq_ok_nil_iff.mpr none
        rw [found, Except.ok.injEq] at nothing
        exact used nothing
      rw [List.filter_cons_of_pos some]
      exact .cons (.some found used made) ih

/-- The modules of a catalog with container fields have alias files, in order. -/
theorem MakesAll.aliasFiles {aliases : List PackageAliases} (made : env.MakesAll catalog aliases) :
    List.Forall₂ (fun entry file => MakesAliases env entry.1.name entry.2 (some file))
      (catalog.listing.filter fun entry => entry.2.hasContainerFields env.settings)
      (aliases.flatMap PackageAliases.modules) := by
  unfold MakesAll at made
  rw [Catalog.listing]
  generalize catalog.packages = packages at made
  induction made with
  | nil => exact .nil
  | @cons package result _ _ made _ ih =>
    obtain ⟨results, each, rfl⟩ := outcome_packageAliases_eq_ok_iff.mp made
    rw [List.flatMap_cons, List.filter_append, List.filter_map, List.flatMap_cons]
    refine List.rel_append ?_ ih
    rw [List.forall₂_map_left_iff]
    exact aliasFiles_of_modules each

namespace Run

/-- The files of a package whose paths say that they hold aliases are its alias files. -/
theorem filter_packageSources (run : Run env catalog names) {aliases : PackageAliases}
    (member : aliases ∈ run.aliases) :
    (run.packageSources aliases).filter (fun file => hasAliasPath file.path) =
      aliases.modules.map ModuleAliases.file := by
  have noIndex : [env.indexAt run.classes aliases].filter (fun file => hasAliasPath file.path) =
      [] := by
    rw [List.filter_eq_nil_iff]
    intro file only ending
    obtain ⟨stem, path_eq⟩ := hasAliasPath_eq_true_iff.mp ending
    rw [List.mem_singleton.mp only, indexAt, packagePath_eq, inPackage] at path_eq
    exact append_ne_append (by decide) _ _ path_eq
  rw [packageSources, List.filter_append, noIndex, List.append_nil, List.filter_eq_self]
  intro file inFiles
  obtain ⟨result, found, rfl⟩ := List.mem_map.mp inFiles
  rw [hasAliasPath_eq_true_iff, run.path_of_mem member found, inPackage, ← String.append_assoc]
  exact ⟨_, rfl⟩

/-- The files of a run whose paths say that they hold aliases are its alias files. -/
theorem filter_hasAliasPath (run : Run env catalog names) :
    run.sources.filter (fun file => hasAliasPath file.path) =
      (run.aliases.flatMap PackageAliases.modules).map ModuleAliases.file := by
  have noClass : (run.classes.map ClassFile.file).filter (fun file => hasAliasPath file.path) =
      [] := by
    rw [List.filter_eq_nil_iff]
    intro file inClasses ending
    obtain ⟨stem, path_eq⟩ := hasAliasPath_eq_true_iff.mp ending
    rw [classes, classesFor, List.map_map] at inClasses
    obtain ⟨container, _, rfl⟩ := List.mem_map.mp inClasses
    rw [Function.comp_apply, path_classFileAt, inPackage, ← String.append_assoc] at path_eq
    exact append_ne_append (by decide) _ _ path_eq
  have noIndex : [⟨IndexFile.projectPath, env.projectScript catalog.names⟩].filter
      (fun file : SourceAt => hasAliasPath file.path) = [] := by
    have bare : hasAliasPath IndexFile.projectPath = false := by decide
    rw [List.filter_cons_of_neg (by simp [bare]), List.filter_nil]
  rw [sources, List.filter_append, List.filter_append, noClass, noIndex, List.append_nil,
    List.append_nil, List.filter_flatMap, List.map_flatMap]
  exact List.flatMap_congr fun aliases member => run.filter_packageSources member

end Run

end Environment

end MoveBindings
