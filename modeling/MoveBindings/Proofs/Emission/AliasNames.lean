import MoveBindings.Proofs.Emission.AliasScopes

/-!
# What the types in an alias file mean

A type that names a struct is written with the namespace of the struct's module,
and namespaces are made of the names of modules alone. So such a type means what
its tag says when the namespace is bound once: when no other module of that name
is referred to, and no alias has the name of the namespace.
-/

namespace MoveBindings

open TypeScript

namespace Environment

open AliasFile

variable {env : Environment} {fields : List ContainerField}

/-- What the namespace of modules with one name means in an alias file: the bindings of each of
them that a type refers to, and each alias that has this name. -/
theorem meanings_namespaceAlias (env : Environment) (path : String) (fields : List ContainerField)
    (stems : List (String × Container)) (name : String) :
    (env.aliasScript path fields stems).meanings (namespaceAlias name) =
      ((env.modulesOf (tags fields)).filter fun id => id.name == name).map
          (fun id => .whole (importSource path (env.bindingsAt id))) ++
        (fields.filter fun field => env.aliasName field == namespaceAlias name).map
          fun _ => .declared := by
  have noFixed : ((env.libraryLinks ((tags fields).flatMap libraryTypes)).flatMap Link.scope ++
      (stemLinks path stems).flatMap Link.scope).filter
        (fun entry => entry.1 == namespaceAlias name) = [] := by
    rw [List.filter_eq_nil_iff]
    intro entry found same
    have fixed : entry.1 ∈ _ := List.mem_map_of_mem found
    rw [List.map_append, map_fst_scope_libraryLinks, map_fst_scope_stemLinks, eq_of_beq same]
      at fixed
    exact dollar_notMem_fixed fixed (dollar_mem_namespaceAlias name)
  have sameModule (id : ModuleId) :
      (namespaceAlias id.name == namespaceAlias name) = (id.name == name) := by
    rw [Bool.eq_iff_iff, beq_iff_eq, beq_iff_eq, namespaceAlias_injective.eq_iff]
  rw [Script.meanings, scope_aliasScript, List.filter_append, List.filter_append, noFixed,
    List.nil_append, List.filter_map, List.filter_map, List.map_append, List.map_map, List.map_map]
  simp only [Function.comp_def, sameModule]

/-- The namespace of a module that a type refers to means its bindings. -/
theorem whole_mem_meanings (path : String) (stems : List (String × Container)) {id : ModuleId}
    (used : id ∈ env.modulesOf (tags fields)) :
    .whole (importSource path (env.bindingsAt id)) ∈
      (env.aliasScript path fields stems).meanings (namespaceAlias id.name) := by
  rw [meanings_namespaceAlias]
  refine List.mem_append_left _ (List.mem_map.mpr ⟨id, ?_, rfl⟩)
  exact List.mem_filter.mpr ⟨used, beq_self_eq_true id.name⟩

/-- The namespace of a module means its bindings alone exactly when no other module that a type
refers to has its name and no alias has the name of the namespace. -/
theorem meanings_eq_singleton_iff (path : String) (stems : List (String × Container))
    {id : ModuleId} (used : id ∈ env.modulesOf (tags fields)) :
    (env.aliasScript path fields stems).meanings (namespaceAlias id.name) =
        [.whole (importSource path (env.bindingsAt id))] ↔
      (∀ other ∈ env.modulesOf (tags fields), other.name = id.name → other = id) ∧
        ∀ field ∈ fields, env.aliasName field ≠ namespaceAlias id.name := by
  have once : (env.modulesOf (tags fields)).filter (fun other => other.name == id.name) = [id] ↔
      ∀ other ∈ env.modulesOf (tags fields), other.name = id.name → other = id := by
    rw [filter_eq_singleton_iff (env.modulesOf_nodup _) used (beq_self_eq_true id.name)]
    simp only [beq_iff_eq]
  have free : (fields.filter fun field => env.aliasName field == namespaceAlias id.name) = [] ↔
      ∀ field ∈ fields, env.aliasName field ≠ namespaceAlias id.name := by
    simp only [List.filter_eq_nil_iff, beq_iff_eq, ne_eq]
  have inFilter : id ∈ (env.modulesOf (tags fields)).filter fun other => other.name == id.name :=
    List.mem_filter.mpr ⟨used, beq_self_eq_true id.name⟩
  rw [meanings_namespaceAlias, ← once, ← free]
  exact map_append_map_eq_singleton_iff inFilter

end Environment

namespace ContainerField

/-- A field that was made from one whose type was read from a text. -/
def IsParsed (field : ContainerField) : Prop :=
  ∃ (container : Container) (name text : String) (type : Tag) (qualifiedName owner : String)
    (module : Option ModuleId), Tag.read text = .ok type ∧
      ofField container ⟨name, type⟩ qualifiedName owner module = .ok field

/-- The types of keys and values of such a field are well formed. -/
theorem IsParsed.wellFormed {field : ContainerField} (parsed : field.IsParsed) :
    ∀ tag ∈ [field.key, field.value], tag.WellFormed := by
  obtain ⟨container, name, text, type, qualifiedName, owner, module, read, made⟩ := parsed
  have formed := Tag.wellFormed_of_read read
  obtain ⟨struct, shape, _⟩ := exists_shape_of_ofField made
  change type = _ at shape
  subst shape
  cases formed with
  | struct _ _ _ _ _ params => exact params

/-- A field of a container type with well-formed parameters is such a field. -/
theorem isParsed_of_named {field : ContainerField} (name : QualifiedName)
    (formed : (Tag.struct name [field.key, field.value]).WellFormed)
    (named : field.qualifiedName = name.text) : field.IsParsed := by
  obtain ⟨container, fieldName, key, value, qualifiedName, owner⟩ := field
  cases named
  refine ⟨container, fieldName, _, _, name.text, owner, none,
    Tag.read_text_of_wellFormed formed, ?_⟩
  have written : name.text ≠ "" := by simp [QualifiedName.text]
  have parameters (declaredIn : String) : keyAndValue ⟨fieldName, .struct name [key, value]⟩
      name.text declaredIn = .ok (key, value) :=
    keyAndValue_eq_ok_iff.mpr ⟨name, rfl, rfl⟩
  rw [ofField, if_neg written, parameters]
  rfl

/-- A table of well-formed tags is such a field. -/
theorem isParsed_of_table {field : ContainerField}
    (named : field.qualifiedName = "0x1::Table::Table") (key : field.key.WellFormed)
    (value : field.value.WellFormed) : field.IsParsed := by
  refine isParsed_of_named ⟨"0x1", "Table", "Table"⟩ ?_ named
  refine .struct (by decide) (by decide) (by decide) (by decide) (by decide) ?_
  intro param member
  simp only [List.mem_cons, List.not_mem_nil, or_false] at member
  rcases member with rfl | rfl
  · exact key
  · exact value

end ContainerField

/-- A file and a target of its imports: both paths are relative and go nowhere up, and the target is
not the directory of the file. -/
structure Path.IsImportable (file target : Path) : Prop where
  fileRelative : file.root = ""
  targetRelative : target.root = ""
  noUpsInFile : ".." ∉ file.components
  noUpsInTarget : ".." ∉ target.components
  elsewhere : target.components ≠ file.parent.components

namespace Environment

open AliasFile

variable {env : Environment} {package path : String} {module : ModuleId}
  {fields : List ContainerField} {script : Script}

/-- A struct that the type of a key or a value names belongs to a module that the file imports. -/
theorem mem_modulesOf_of_namedStruct? {field : ContainerField} (member : field ∈ fields) {tag : Tag}
    (inField : tag ∈ [field.key, field.value]) {name : QualifiedName}
    (named : namedStruct? env.modules tag = some name) :
    name.moduleId ∈ env.modulesOf (tags fields) := by
  have used : name.moduleId ∈ modulesUsed env.modules tag := by
    rw [modulesUsed_eq, named]
    simp
  refine (mem_sortedSet_iff ModuleId.less_isTotal).mpr (List.mem_flatMap.mpr ⟨tag, ?_, used⟩)
  exact List.mem_flatMap.mpr ⟨field, member, inField⟩

/-- An alias file is made for parsed fields. The names that it binds are different exactly when the
names of its parts are apart. Each alias has the types of its field's keys and values. Where such a
type names a struct of a known module, it is written with the namespace of the module; the namespace
is bound to the bindings of that module; and it means nothing else exactly when no other module of
that name is referred to and no alias has the name of the namespace. The source leads from the file
to the bindings wherever paths allow it. -/
theorem alias_names_distinct_iff (parsed : ∀ field ∈ fields, field.IsParsed)
    (made : (env.aliasFile package module fields).outcome = .ok (path, script)) :
    (script.boundNames.Nodup ↔ env.NamesApart fields) ∧
      script.typeAliases = fields.map env.aliasOf ∧
      ∀ field ∈ fields, ∀ tag ∈ [field.key, field.value], ∀ name,
        namedStruct? env.modules tag = some name →
          typeName env.modules tag = structType name tag.depth ∧
          ∃ target, env.bindingsPath name.moduleId = .ok target ∧
            .whole (importSource path target) ∈ script.meanings (namespaceAlias name.module) ∧
            (script.meanings (namespaceAlias name.module) = [.whole (importSource path target)] ↔
              (∀ other ∈ env.modulesOf (tags fields), other.name = name.module →
                other = name.moduleId) ∧
              ∀ other ∈ fields, env.aliasName other ≠ namespaceAlias name.module) ∧
            (Path.IsImportable (Path.ofString path) (Path.ofString target) →
              Path.resolve (Path.ofString path) (importSource path target) =
                Path.ofString target) := by
  obtain ⟨rfl, distinct, stems, located, rfl⟩ := of_aliasFile made
  refine ⟨boundNames_aliasScript_nodup_iff distinct located, typeAliases_aliasScript .., ?_⟩
  intro field member tag inField name named
  have used := mem_modulesOf_of_namedStruct? member inField named
  have formed := (parsed field member).wellFormed tag inField
  have bound := whole_mem_meanings (AliasFile.path package module) stems used
  have alone := meanings_eq_singleton_iff (AliasFile.path package module) stems used
  refine ⟨typeName_of_namedStruct? formed named, env.bindingsAt name.moduleId,
    bindingsPath_of_contains (contains_of_mem_modulesOf used), bound, alone, ?_⟩
  intro importable
  exact Path.resolve_importSource importable.fileRelative importable.targetRelative
    (fun _ => Path.isComponent_of_mem_ofString) importable.noUpsInFile importable.noUpsInTarget
    importable.elsewhere

/-- An environment that knows two modules of one name at different addresses. -/
def coinEnvironment : Environment where
  known := some (.ofList [(⟨"0x1", "Coin"⟩, "Std"), (⟨"0x2", "Coin"⟩, "Market")])

/-- A struct of the one module or of the other. -/
def coin (address : String) : Tag := .struct ⟨address, "Coin", "Coin"⟩ []

/-- A field in which coins of one kind are the keys. -/
def coinField (value : Tag) : ContainerField where
  container := .table
  fieldName := "prices"
  key := coin "0x1"
  value
  qualifiedName := "0x1::Table::Table"
  owner := "Shelf"

theorem coinField_isParsed {value : Tag} (formed : value.WellFormed) :
    (coinField value).IsParsed := by
  have key : (coin "0x1").WellFormed :=
    .struct (by decide) (by decide) (by decide) (by decide) (by decide) (by simp)
  exact ContainerField.isParsed_of_table rfl key formed

/-- An alias file with one field. -/
theorem exists_coinFile {value : Tag}
    (succeeds : (coinEnvironment.aliasFile "Shop" ⟨"0x3", "Store"⟩
      [coinField value]).outcome.isOk = true) :
    ∃ script, (coinEnvironment.aliasFile "Shop" ⟨"0x3", "Store"⟩
      [coinField value]).outcome = .ok ("Shop/Store.tables.ts", script) := by
  obtain ⟨⟨path, script⟩, made⟩ := exists_of_isOk succeeds
  cases (of_aliasFile made).1
  exact ⟨script, made⟩

/-- Where types refer to the one module only, its namespace means its bindings. Where they refer to
both, the namespace is bound twice. -/
theorem alias_names_distinct_iff_coins :
    (∃ script, (coinEnvironment.aliasFile "Shop" ⟨"0x3", "Store"⟩
        [coinField (.scalar "u64")]).outcome = .ok ("Shop/Store.tables.ts", script) ∧
      script.boundNames.Nodup ∧ script.meanings "Coin$_" = [.whole "../Std/Coin"]) ∧
    ∃ script, (coinEnvironment.aliasFile "Shop" ⟨"0x3", "Store"⟩
        [coinField (coin "0x2")]).outcome = .ok ("Shop/Store.tables.ts", script) ∧
      ¬script.boundNames.Nodup ∧ script.meanings "Coin$_" ≠ [.whole "../Std/Coin"] := by
  have source : importSource "Shop/Store.tables.ts" "Std/Coin" = "../Std/Coin" := by decide
  have named : namedStruct? coinEnvironment.modules (coin "0x1") =
      some ⟨"0x1", "Coin", "Coin"⟩ := by decide
  constructor
  · obtain ⟨script, made⟩ := exists_coinFile (by decide : (coinEnvironment.aliasFile "Shop"
      ⟨"0x3", "Store"⟩ [coinField (.scalar "u64")]).outcome.isOk = true)
    have parsed : ∀ field ∈ [coinField (.scalar "u64")], field.IsParsed := by
      simpa using coinField_isParsed (.scalar (by decide))
    have apart : coinEnvironment.NamesApart [coinField (.scalar "u64")] :=
      ⟨by decide, by simp, by decide⟩
    obtain ⟨distinct, _, types⟩ := alias_names_distinct_iff parsed made
    obtain ⟨_, target, found, _, alone, _⟩ :=
      types _ (List.mem_singleton_self _) _ (.head _) _ named
    cases found
    refine ⟨script, made, distinct.mpr apart, ?_⟩
    rw [← source]
    exact alone.mpr ⟨by decide, by decide⟩
  · obtain ⟨script, made⟩ := exists_coinFile (by decide : (coinEnvironment.aliasFile "Shop"
      ⟨"0x3", "Store"⟩ [coinField (coin "0x2")]).outcome.isOk = true)
    have parsed : ∀ field ∈ [coinField (coin "0x2")], field.IsParsed := by
      have formed : (coin "0x2").WellFormed :=
        .struct (by decide) (by decide) (by decide) (by decide) (by decide) (by simp)
      simpa using coinField_isParsed formed
    obtain ⟨distinct, _, types⟩ := alias_names_distinct_iff parsed made
    obtain ⟨_, target, found, _, alone, _⟩ :=
      types _ (List.mem_singleton_self _) _ (.head _) _ named
    cases found
    -- Two modules of one name are referred to.
    have other : (⟨"0x2", "Coin"⟩ : ModuleId) ∈
        coinEnvironment.modulesOf (tags [coinField (coin "0x2")]) := by decide
    have different : (⟨"0x2", "Coin"⟩ : ModuleId) ≠ ⟨"0x1", "Coin"⟩ := by decide
    refine ⟨script, made, fun all => ?_, fun means => ?_⟩
    · exact different ((distinct.mp all).modules _ other ⟨"0x1", "Coin"⟩ (by decide) rfl)
    · rw [← source] at means
      exact different ((alone.mp means).1 _ other rfl)

end Environment

end MoveBindings
