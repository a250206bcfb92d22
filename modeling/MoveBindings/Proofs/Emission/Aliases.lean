import MoveBindings.Emission.AliasFile
import MoveBindings.Proofs.Emission.Classes
import MoveBindings.Proofs.Text.Sorted

/-!
# What alias files import

An alias file imports library names, the classes of the containers its fields
belong to, and the modules that the types of keys and values refer to. Nothing
else in the file is imported, and nothing is exported.
-/

namespace MoveBindings

open TypeScript

namespace TypeScript

/-- Only types of the libraries are taken from them. -/
theorem mem_of_mem_libraryTypes {type : String} {tag : Tag} (used : type ∈ libraryTypes tag) :
    type ∈ runtimeTypes ++ clientTypes := by
  fun_induction libraryTypes tag with
  | case1 name scalar known => exact List.mem_singleton.mp used ▸ known
  | case2 => cases used
  | case3 element ih => exact ih used
  | case4 => cases used

/-- Only known modules are referred to. -/
theorem contains_of_mem_modulesUsed {known : ModuleMap} {id : ModuleId} {tag : Tag}
    (used : id ∈ modulesUsed known tag) : known.contains id = true := by
  fun_induction modulesUsed known tag with
  | case1 element ih => exact ih used
  | case2 name params found => exact List.mem_singleton.mp used ▸ found
  | case3 => cases used
  | case4 => cases used

end TypeScript

theorem eq_of_mem_linkNames {source : String} {names : List String} {link : Link}
    (member : link ∈ linkNames source names) : link = ⟨source, .names names⟩ := by
  unfold linkNames at member
  split at member
  · cases member
  · exact List.mem_singleton.mp member

namespace Environment

/-- The imports of the classes of fields. -/
def classLinksAt (env : Environment) (names : Container → QualifiedName) (path : String)
    (fields : List ContainerField) : List Link :=
  let stems := fields.map fun field => (env.classAt (names field.container), field.container)
  (Text.sorted (stems.map Prod.fst)).map fun stem =>
    ⟨importSource path stem, .names (AliasFile.classNames stems stem)⟩

/-- The imports of the modules that tags refer to. -/
def moduleLinks (env : Environment) (path : String) (tags : List Tag) : List Link :=
  (env.modulesOf tags).map fun id =>
    ⟨importSource path (env.bindingsAt id), .whole (namespaceAlias id.name)⟩

/-- Names are imported from a library. -/
theorem mem_libraryLinks {env : Environment} {names : List String} {link : Link}
    (member : link ∈ env.libraryLinks names) :
    (link.source = env.settings.clientModule ∨ link.source = env.settings.runtimeModule) ∧
      ∃ imported, link.binding = .names imported ∧ ∀ name ∈ imported, name ∈ names := by
  cases List.mem_append.mp member with
  | inl client =>
    cases eq_of_mem_linkNames client
    refine ⟨.inl rfl, _, rfl, ?_⟩
    intro name chosen
    exact Text.mem_sorted_iff.mp (List.mem_filter.mp chosen).1
  | inr runtime =>
    cases eq_of_mem_linkNames runtime
    refine ⟨.inr rfl, _, rfl, ?_⟩
    intro name chosen
    exact Text.mem_sorted_iff.mp (List.mem_filter.mp chosen).1

/-- The modules that tags refer to are known. -/
theorem contains_of_mem_modulesOf {env : Environment} {tags : List Tag} {id : ModuleId}
    (member : id ∈ env.modulesOf tags) : env.modules.contains id = true := by
  obtain ⟨tag, _, used⟩ :=
    List.mem_flatMap.mp ((mem_sortedSet_iff ModuleId.less_isTotal).mp member)
  exact contains_of_mem_modulesUsed used

/-- The classes imported from one file are those of fields whose class lies there. -/
theorem exists_field_of_mem_classNames {env : Environment} {names : Container → QualifiedName}
    {fields : List ContainerField} {stem className : String}
    (member : className ∈ AliasFile.classNames
      (fields.map fun field => (env.classAt (names field.container), field.container)) stem) :
    ∃ field ∈ fields, field.container.className = className ∧
      env.classAt (names field.container) = stem := by
  obtain ⟨⟨place, container⟩, entry, rfl⟩ := List.mem_map.mp (Text.mem_sorted_iff.mp member)
  obtain ⟨entry, same⟩ := List.mem_filter.mp entry
  obtain ⟨field, inFields, shape⟩ := List.mem_map.mp entry
  cases shape
  exact ⟨field, inFields, rfl, beq_iff_eq.mp same⟩

/-- The classes of fields are imported from where they lie. -/
theorem exists_field_of_mem_classLinksAt {env : Environment} {names : Container → QualifiedName}
    {path : String} {fields : List ContainerField} {link : Link}
    (member : link ∈ env.classLinksAt names path fields) :
    ∃ field ∈ fields,
      link.source = importSource path (env.classAt (names field.container)) ∧
      ∃ imported, link.binding = .names imported ∧ ∀ className ∈ imported,
        ∃ other ∈ fields, other.container.className = className ∧
          env.classAt (names other.container) = env.classAt (names field.container) := by
  obtain ⟨stem, stems, rfl⟩ := List.mem_map.mp member
  rw [Text.mem_sorted_iff, List.map_map] at stems
  obtain ⟨field, inFields, rfl⟩ := List.mem_map.mp stems
  exact ⟨field, inFields, rfl, _, rfl, fun className found =>
    exists_field_of_mem_classNames found⟩

namespace WellNamed

variable {env : Environment} {catalog : Catalog} {names : Container → QualifiedName}

/-- The classes of fields can be found when the fields have the names of their containers. -/
theorem classLinks_eq (w : env.WellNamed catalog names) (path : String)
    {fields : List ContainerField}
    (named : ∀ field ∈ fields,
      field.qualifiedName = field.container.configuredName env.settings) :
    env.classLinks path fields = .ok (env.classLinksAt names path fields) := by
  have stems : fields.mapM (fun field => do
      return (← env.classStem field.qualifiedName, field.container)) = .ok
        (fields.map fun field => (env.classAt (names field.container), field.container)) := by
    rw [mapM_eq_ok_iff, List.forall₂_map_right_iff, List.forall₂_same]
    intro field member
    rw [named field member, w.classStem_eq]
    rfl
  rw [classLinks, stems]
  rfl

/-- The modules that tags refer to can be found. -/
theorem moduleLinks_eq (w : env.WellNamed catalog names) (path : String) (tags : List Tag) :
    ((env.modulesOf tags).mapM fun id => env.bindingsLink path id) =
      .ok (env.moduleLinks path tags) := by
  rw [mapM_eq_ok_iff, moduleLinks, List.forall₂_map_right_iff, List.forall₂_same]
  exact fun id _ => w.bindingsLink_eq path id

/-- An alias file imports library names, classes and modules, and exports nothing. -/
theorem links_of_aliasSource (w : env.WellNamed catalog names) {path : String}
    {fields : List ContainerField} {script : Script}
    (named : ∀ field ∈ fields,
      field.qualifiedName = field.container.configuredName env.settings)
    (h : (env.aliasSource path fields).outcome = .ok script) :
    script.imports = env.libraryLinks ((AliasFile.tags fields).flatMap libraryTypes) ++
        env.classLinksAt names path fields ++ env.moduleLinks path (AliasFile.tags fields) ∧
      script.exports = [] := by
  obtain ⟨aliases, _, h⟩ := Emission.outcome_bind_eq_ok_iff.mp h
  simp only [w.classLinks_eq path named, w.moduleLinks_eq, Emission.outcome_bind,
    Emission.outcome_ofExcept, ok_bind, Emission.outcome_pure, Except.ok.injEq] at h
  subst h
  constructor
  · simp only [Script.imports_append, Script.imports_map_importFrom, Script.imports_map_typeAlias,
      List.append_nil]
  · simp only [Script.exports_append, Script.exports_map_importFrom, Script.exports_map_typeAlias,
      List.append_nil]

end WellNamed

end Environment

end MoveBindings
