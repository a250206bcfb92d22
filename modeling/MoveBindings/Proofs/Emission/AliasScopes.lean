import Mathlib.Data.List.Pairwise
import MoveBindings.Proofs.Emission.AliasSources
import MoveBindings.Proofs.Emission.ContainerFields
import MoveBindings.Proofs.TypeScript.Scopes
import MoveBindings.Proofs.TypeScript.StructTypes

/-!
# The names that an alias file binds

An alias file binds library names, classes, namespaces of modules and aliases.
Only the aliases are compared with one another when the file is made. The other
names are different when modules with one name are one module, when each
container has one class, and when no alias has a name that is imported.
-/

namespace MoveBindings

open TypeScript

namespace AliasFile

variable {stems : List (String × Container)}

theorem mem_classNames_iff {stem name : String} :
    name ∈ classNames stems stem ↔
      ∃ container, (stem, container) ∈ stems ∧ container.className = name := by
  rw [classNames, Text.mem_sorted_iff, List.mem_map]
  constructor
  · rintro ⟨⟨place, container⟩, found, same⟩
    obtain ⟨found, here⟩ := List.mem_filter.mp found
    exact ⟨container, eq_of_beq here ▸ found, same⟩
  · rintro ⟨container, found, same⟩
    exact ⟨(stem, container), List.mem_filter.mpr ⟨found, beq_self_eq_true stem⟩, same⟩

/-- The classes that are imported, file by file. -/
def importedClasses (stems : List (String × Container)) : List String :=
  (Text.sorted (stems.map Prod.fst)).flatMap (classNames stems)

theorem mem_importedClasses_iff {name : String} :
    name ∈ importedClasses stems ↔ ∃ entry ∈ stems, entry.2.className = name := by
  simp only [importedClasses, List.mem_flatMap, Text.mem_sorted_iff, List.mem_map,
    mem_classNames_iff]
  constructor
  · rintro ⟨stem, _, container, found, same⟩
    exact ⟨(stem, container), found, same⟩
  · rintro ⟨⟨stem, container⟩, found, same⟩
    exact ⟨stem, ⟨_, found, rfl⟩, container, found, same⟩

/-- No class is imported twice when every container has one class. -/
theorem nodup_importedClasses_iff :
    (importedClasses stems).Nodup ↔ ∀ a ∈ stems, ∀ b ∈ stems, a.2 = b.2 → a.1 = b.1 := by
  have perFile : ∀ stem ∈ Text.sorted (stems.map Prod.fst), (classNames stems stem).Nodup :=
    fun _ _ => Text.sorted_nodup _
  have files := Text.sorted_nodup (stems.map Prod.fst)
  rw [importedClasses, List.nodup_flatMap, and_iff_right perFile]
  constructor
  · rintro disjoint ⟨stem, container⟩ first ⟨other, otherContainer⟩ second same
    change container = otherContainer at same
    subst same
    by_contra different
    have firstFile : stem ∈ Text.sorted (stems.map Prod.fst) :=
      Text.mem_sorted_iff.mpr (List.mem_map_of_mem first)
    have secondFile : other ∈ Text.sorted (stems.map Prod.fst) :=
      Text.mem_sorted_iff.mpr (List.mem_map_of_mem second)
    have symmetric : Std.Symm (Function.onFun List.Disjoint (classNames stems)) :=
      ⟨fun _ _ h _ second first => h first second⟩
    have apart := disjoint.forall firstFile secondFile different
    exact apart (mem_classNames_iff.mpr ⟨container, first, rfl⟩)
      (mem_classNames_iff.mpr ⟨container, second, rfl⟩)
  · intro unique
    refine files.imp fun different name inFirst inSecond => ?_
    obtain ⟨container, first, rfl⟩ := mem_classNames_iff.mp inFirst
    obtain ⟨other, second, same⟩ := mem_classNames_iff.mp inSecond
    have containers : container = other := by
      cases container <;> cases other <;> first | rfl | exact absurd same (by decide)
    exact different (unique _ first _ second containers)

end AliasFile

theorem scope_linkNames (source : String) (names : List String) :
    (linkNames source names).flatMap Link.scope = names.map fun name => (name, .part source) := by
  cases names <;> simp [linkNames, Link.scope]

namespace Environment

open AliasFile

variable {env : Environment} {path : String} {fields : List ContainerField}
  {stems : List (String × Container)}

/-! ## What a file binds -/

/-- The library names that are imported, those of the client library first. -/
def importedTypes (fields : List ContainerField) : List String :=
  let sorted := Text.sorted ((tags fields).flatMap libraryTypes)
  sorted.filter isClientName ++ sorted.filter fun name => !isClientName name

/-- The namespaces under which modules are imported. -/
def importedModules (env : Environment) (fields : List ContainerField) : List String :=
  (env.modulesOf (tags fields)).map fun id => namespaceAlias id.name

theorem map_fst_scope_libraryLinks (env : Environment) (fields : List ContainerField) :
    ((env.libraryLinks ((tags fields).flatMap libraryTypes)).flatMap Link.scope).map Prod.fst =
      importedTypes fields := by
  rw [libraryLinks, List.flatMap_append, scope_linkNames, scope_linkNames, List.map_append,
    List.map_map, List.map_map]
  exact congrArg₂ (· ++ ·) (List.map_id _) (List.map_id _)

theorem map_fst_scope_stemLinks (path : String) (stems : List (String × Container)) :
    ((stemLinks path stems).flatMap Link.scope).map Prod.fst = importedClasses stems := by
  rw [stemLinks, List.flatMap_map, List.map_flatMap, importedClasses]
  refine List.flatMap_congr fun stem _ => ?_
  rw [Link.scope]
  dsimp only
  rw [List.map_map]
  exact List.map_id _

theorem scope_moduleLinks (env : Environment) (path : String) (tags : List Tag) :
    (env.moduleLinks path tags).flatMap Link.scope = (env.modulesOf tags).map fun id =>
      (namespaceAlias id.name, .whole (importSource path (env.bindingsAt id))) := by
  rw [moduleLinks, List.flatMap_map, List.map_eq_flatMap]
  rfl

theorem scope_aliasScript (env : Environment) (path : String) (fields : List ContainerField)
    (stems : List (String × Container)) :
    (env.aliasScript path fields stems).scope =
      (env.libraryLinks ((tags fields).flatMap libraryTypes)).flatMap Link.scope ++
        (stemLinks path stems).flatMap Link.scope ++
        ((env.modulesOf (tags fields)).map fun id =>
          (namespaceAlias id.name, .whole (importSource path (env.bindingsAt id)))) ++
        fields.map fun field => (env.aliasName field, .declared) := by
  rw [aliasScript, Script.scope_append, Script.scope_map_importFrom, Script.scope_map_typeAlias,
    List.flatMap_append, List.flatMap_append, scope_moduleLinks, List.map_map]
  rfl

theorem boundNames_aliasScript (env : Environment) (path : String) (fields : List ContainerField)
    (stems : List (String × Container)) :
    (env.aliasScript path fields stems).boundNames =
      importedTypes fields ++ importedClasses stems ++ env.importedModules fields ++
        fields.map env.aliasName := by
  rw [Script.boundNames, scope_aliasScript, List.map_append, List.map_append, List.map_append,
    map_fst_scope_libraryLinks, map_fst_scope_stemLinks, List.map_map, List.map_map]
  rfl

theorem typeAliases_aliasScript (env : Environment) (path : String) (fields : List ContainerField)
    (stems : List (String × Container)) :
    (env.aliasScript path fields stems).typeAliases = fields.map env.aliasOf := by
  rw [aliasScript, Script.typeAliases_append, Script.typeAliases_map_importFrom,
    Script.typeAliases_map_typeAlias, List.nil_append]

/-! ## When its names are different -/

theorem importedTypes_nodup (fields : List ContainerField) : (importedTypes fields).Nodup :=
  (List.filter_append_perm isClientName _).nodup_iff.mpr (Text.sorted_nodup _)

theorem mem_importedTypes_iff {name : String} :
    name ∈ importedTypes fields ↔ name ∈ (tags fields).flatMap libraryTypes := by
  rw [importedTypes, (List.filter_append_perm isClientName _).mem_iff, Text.mem_sorted_iff]

/-- The names that the file of the aliases of fields imports. -/
def importedNames (env : Environment) (fields : List ContainerField) : List String :=
  (tags fields).flatMap libraryTypes ++ fields.map (fun field => field.container.className) ++
    env.importedModules fields

/-- Modules with one name are one module, every container has one class, and no alias has a name
that is imported. -/
structure NamesApart (env : Environment) (fields : List ContainerField) : Prop where
  modules : ∀ a ∈ env.modulesOf (tags fields), ∀ b ∈ env.modulesOf (tags fields),
    a.name = b.name → a = b
  classes : ∀ a ∈ fields, ∀ b ∈ fields, a.container = b.container →
    env.classStem a.qualifiedName = env.classStem b.qualifiedName
  aliases : ∀ field ∈ fields, env.aliasName field ∉ env.importedNames fields

/-- Namespaces are different when modules with one name are one module. -/
theorem importedModules_nodup_iff :
    (env.importedModules fields).Nodup ↔ ∀ a ∈ env.modulesOf (tags fields),
      ∀ b ∈ env.modulesOf (tags fields), a.name = b.name → a = b := by
  rw [importedModules, List.nodup_map_iff_inj_on (env.modulesOf_nodup _)]
  simp only [namespaceAlias_injective.eq_iff]

/-- Classes are different when every container has one. -/
theorem importedClasses_nodup_iff (located : env.ClassStems fields stems) :
    (importedClasses stems).Nodup ↔ ∀ a ∈ fields, ∀ b ∈ fields, a.container = b.container →
      env.classStem a.qualifiedName = env.classStem b.qualifiedName := by
  rw [nodup_importedClasses_iff]
  constructor
  · intro unique a inFields b otherInFields same
    obtain ⟨first, firstIn, firstAt, firstOf⟩ := exists_result located inFields
    obtain ⟨second, secondIn, secondAt, secondOf⟩ := exists_result located otherInFields
    rw [firstAt, secondAt, unique first firstIn second secondIn (firstOf.trans (same.trans
      secondOf.symm))]
  · intro unique first firstIn second secondIn same
    obtain ⟨a, inFields, firstAt, firstOf⟩ := exists_element located firstIn
    obtain ⟨b, otherInFields, secondAt, secondOf⟩ := exists_element located secondIn
    have stems := unique a inFields b otherInFields (firstOf.symm.trans (same.trans secondOf))
    exact Except.ok.inj (firstAt.symm.trans (stems.trans secondAt))

/-- A class is imported when a field belongs to its container. -/
theorem mem_importedClasses_of_stems (located : env.ClassStems fields stems) {name : String} :
    name ∈ importedClasses stems ↔ name ∈ fields.map fun field => field.container.className := by
  rw [mem_importedClasses_iff, List.mem_map]
  constructor
  · rintro ⟨entry, found, rfl⟩
    obtain ⟨field, inFields, _, same⟩ := exists_element located found
    exact ⟨field, inFields, by rw [same]⟩
  · rintro ⟨field, inFields, rfl⟩
    obtain ⟨entry, found, _, same⟩ := exists_result located inFields
    exact ⟨entry, found, by rw [same]⟩

/-- The names of library types and of classes: they are different, and no namespace is among
them. -/
def fixedNames : List String :=
  runtimeTypes ++ clientTypes ++ Container.all.map Container.className

theorem importedTypes_disjoint_importedClasses (fields : List ContainerField)
    (stems : List (String × Container)) :
    List.Disjoint (importedTypes fields) (importedClasses stems) := by
  intro name ofType ofClass
  obtain ⟨tag, _, used⟩ := List.mem_flatMap.mp (mem_importedTypes_iff.mp ofType)
  obtain ⟨⟨_, container⟩, _, rfl⟩ := mem_importedClasses_iff.mp ofClass
  have library := mem_of_mem_libraryTypes used
  have apart : ∀ container ∈ Container.all,
      container.className ∉ runtimeTypes ++ clientTypes := by decide
  exact apart container (Container.mem_all container) library

theorem dollar_notMem_fixed {fields : List ContainerField} {stems : List (String × Container)}
    {name : String} (fixed : name ∈ importedTypes fields ++ importedClasses stems) :
    '$' ∉ name.toList := by
  have noDollar : ∀ name ∈ fixedNames, '$' ∉ name.toList := by decide
  apply noDollar
  rw [fixedNames, List.mem_append]
  rcases List.mem_append.mp fixed with ofType | ofClass
  · obtain ⟨tag, _, used⟩ := List.mem_flatMap.mp (mem_importedTypes_iff.mp ofType)
    exact .inl (mem_of_mem_libraryTypes used)
  · obtain ⟨⟨_, container⟩, _, same⟩ := mem_importedClasses_iff.mp ofClass
    exact .inr (same ▸ List.mem_map_of_mem (Container.mem_all container))

theorem disjoint_importedModules (fields : List ContainerField)
    (stems : List (String × Container)) :
    List.Disjoint (importedTypes fields ++ importedClasses stems)
      (env.importedModules fields) := by
  intro name fixed ofModule
  obtain ⟨id, _, rfl⟩ := List.mem_map.mp ofModule
  exact dollar_notMem_fixed fixed (dollar_mem_namespaceAlias id.name)

/-- The names that an alias file binds are different exactly when the names of its parts are
apart. -/
theorem boundNames_aliasScript_nodup_iff (distinct : (fields.map env.aliasName).Nodup)
    (located : env.ClassStems fields stems) :
    (env.aliasScript path fields stems).boundNames.Nodup ↔ env.NamesApart fields := by
  have imported (name : String) :
      name ∈ importedTypes fields ++ importedClasses stems ++ env.importedModules fields ↔
        name ∈ env.importedNames fields := by
    simp only [importedNames, List.mem_append, mem_importedTypes_iff,
      mem_importedClasses_of_stems located]
  rw [boundNames_aliasScript, List.nodup_append, List.nodup_append', List.nodup_append']
  simp only [importedTypes_nodup, importedTypes_disjoint_importedClasses,
    disjoint_importedModules, distinct, and_true, true_and, importedModules_nodup_iff,
    importedClasses_nodup_iff located, imported]
  constructor
  · rintro ⟨⟨classes, modules⟩, aliases⟩
    refine ⟨modules, classes, fun field member fixed => ?_⟩
    exact aliases _ fixed _ (List.mem_map_of_mem member) rfl
  · rintro ⟨modules, classes, aliases⟩
    refine ⟨⟨classes, modules⟩, ?_⟩
    rintro name fixed _ ofAlias rfl
    obtain ⟨field, member, rfl⟩ := List.mem_map.mp ofAlias
    exact aliases field member fixed

end Environment

end MoveBindings
