import MoveBindings.Proofs.Emission.AliasNames
import MoveBindings.Proofs.TypeScript.BaseTypes

/-!
# An alias file imports what it uses

The imports of an alias file can be told from the types of keys and values and
from the containers of the fields: library names that are types or make up
arrays, the class of each field, and the modules whose structs are named. Each
list of imports is ascending and has everything once.
-/

namespace MoveBindings

open TypeScript

/-- An import of names, which is left out when there are none. -/
def importOf (source : String) (names : List String) : List Link :=
  if names = [] then [] else [⟨source, .names names⟩]

theorem linkNames_eq_importOf (source : String) (names : List String) :
    linkNames source names = importOf source names := by
  cases names <;> rfl

namespace Environment

open AliasFile

variable {env : Environment} {path : String} {fields : List ContainerField}

/-- Some key or value has a type, or is an array of it. -/
def HasType (env : Environment) (fields : List ContainerField) (type : String) : Prop :=
  ∃ tag ∈ tags fields, typeName env.modules tag = type ++ brackets tag.depth

/-- Some key or value is a struct of a known module, or an array of such structs. -/
def HasStructOf (env : Environment) (fields : List ContainerField) (id : ModuleId) : Prop :=
  ∃ tag ∈ tags fields, ∃ name params, tag.innermost = .struct name params ∧ name.moduleId = id ∧
    env.modules.contains id = true

/-- The class of some field lies in the file of a path, given without its extension. -/
def HasClassAt (env : Environment) (fields : List ContainerField) (stem className : String) :
    Prop :=
  ∃ field ∈ fields, env.classStem field.qualifiedName = .ok stem ∧
    field.container.className = className

/-- What an alias file imports: names of the client library and of the runtime library, classes from
the files where they lie, and the bindings of modules, each with its path. -/
structure AliasImports (env : Environment) (fields : List ContainerField) where
  client : List String
  runtime : List String
  classes : List (String × List String)
  modules : List (ModuleId × String)
  client_listed : IsListing Text.less (fun type => type ∈ clientTypes ∧ env.HasType fields type)
    client
  runtime_listed : IsListing Text.less (fun type => type ∈ runtimeTypes ∧ env.HasType fields type)
    runtime
  stems_listed : IsListing Text.less (fun stem => ∃ className, env.HasClassAt fields stem className)
    (classes.map Prod.fst)
  classes_listed : ∀ entry ∈ classes, IsListing Text.less (env.HasClassAt fields entry.1) entry.2
  modules_listed : IsListing ModuleId.less (env.HasStructOf fields) (modules.map Prod.fst)
  modules_located : ∀ entry ∈ modules, env.bindingsPath entry.1 = .ok entry.2

/-- The import statements, in order, of a file at a path. -/
def AliasImports.links (imports : env.AliasImports fields) (path : String) : List Link :=
  importOf env.settings.clientModule imports.client ++
    importOf env.settings.runtimeModule imports.runtime ++
    imports.classes.map (fun entry => ⟨importSource path entry.1, .names entry.2⟩) ++
    imports.modules.map fun entry =>
      ⟨importSource path entry.2, .whole (namespaceAlias entry.1.name)⟩

/-! ## Library names -/

theorem isClientName_eq_of_mem {type : String} (library : type ∈ runtimeTypes ++ clientTypes) :
    (isClientName type = true ↔ type ∈ clientTypes) ∧
      (isClientName type = false ↔ type ∈ runtimeTypes) := by
  have each : ∀ type ∈ runtimeTypes ++ clientTypes,
      (isClientName type = true ↔ type ∈ clientTypes) ∧
        (isClientName type = false ↔ type ∈ runtimeTypes) := by decide
  exact each type library

/-- The library names that types refer to are the types of keys and values, and what these are
arrays of. -/
theorem mem_flatMap_libraryTypes_iff (env : Environment)
    (formed : ∀ tag ∈ tags fields, tag.WellFormed) {type : String} :
    type ∈ (tags fields).flatMap libraryTypes ↔
      type ∈ runtimeTypes ++ clientTypes ∧ env.HasType fields type := by
  rw [List.mem_flatMap]
  constructor
  · rintro ⟨tag, member, used⟩
    have library := mem_of_mem_libraryTypes used
    exact ⟨library, tag, member, (mem_libraryTypes_iff (formed tag member) library).mp used⟩
  · rintro ⟨library, tag, member, same⟩
    exact ⟨tag, member, (mem_libraryTypes_iff (formed tag member) library).mpr same⟩

theorem isListing_client (formed : ∀ tag ∈ tags fields, tag.WellFormed) :
    IsListing Text.less (fun type => type ∈ clientTypes ∧ env.HasType fields type)
      ((Text.sorted ((tags fields).flatMap libraryTypes)).filter isClientName) := by
  refine ((Text.isListing_sorted _).filter isClientName).congr fun type => ?_
  rw [env.mem_flatMap_libraryTypes_iff formed, and_right_comm]
  refine and_congr_left fun _ => ?_
  constructor
  · exact fun ⟨library, chosen⟩ => (isClientName_eq_of_mem library).1.mp chosen
  · intro client
    have library := List.mem_append_right runtimeTypes client
    exact ⟨library, (isClientName_eq_of_mem library).1.mpr client⟩

theorem isListing_runtime (formed : ∀ tag ∈ tags fields, tag.WellFormed) :
    IsListing Text.less (fun type => type ∈ runtimeTypes ∧ env.HasType fields type)
      ((Text.sorted ((tags fields).flatMap libraryTypes)).filter fun name =>
        !isClientName name) := by
  refine ((Text.isListing_sorted _).filter fun name => !isClientName name).congr fun type => ?_
  rw [env.mem_flatMap_libraryTypes_iff formed, and_right_comm, Bool.not_eq_true']
  refine and_congr_left fun _ => ?_
  constructor
  · exact fun ⟨library, chosen⟩ => (isClientName_eq_of_mem library).2.mp chosen
  · intro runtime
    have library := List.mem_append_left clientTypes runtime
    exact ⟨library, (isClientName_eq_of_mem library).2.mpr runtime⟩

/-! ## Classes and modules -/

/-- The fields that have their classes in a file are found among the files of all classes. -/
theorem hasClassAt_iff {stems : List (String × Container)} (located : env.ClassStems fields stems)
    {stem className : String} :
    env.HasClassAt fields stem className ↔
      ∃ container, (stem, container) ∈ stems ∧ container.className = className := by
  constructor
  · rintro ⟨field, member, found, named⟩
    obtain ⟨⟨place, container⟩, inStems, there, same⟩ := exists_result located member
    cases Except.ok.inj (found.symm.trans there)
    exact ⟨container, inStems, (congrArg Container.className same).trans named⟩
  · rintro ⟨container, inStems, named⟩
    obtain ⟨field, member, there, same⟩ := exists_element located inStems
    exact ⟨field, member, there, (congrArg Container.className same).symm.trans named⟩

theorem isListing_stems {stems : List (String × Container)}
    (located : env.ClassStems fields stems) :
    IsListing Text.less (fun stem => ∃ className, env.HasClassAt fields stem className)
      (Text.sorted (stems.map Prod.fst)) := by
  refine (Text.isListing_sorted _).congr fun stem => ?_
  constructor
  · intro member
    obtain ⟨⟨_, container⟩, inStems, rfl⟩ := List.mem_map.mp member
    exact ⟨container.className, (hasClassAt_iff located).mpr ⟨container, inStems, rfl⟩⟩
  · rintro ⟨_, found⟩
    obtain ⟨container, inStems, _⟩ := (hasClassAt_iff located).mp found
    exact List.mem_map_of_mem inStems

theorem isListing_classNames {stems : List (String × Container)}
    (located : env.ClassStems fields stems) (stem : String) :
    IsListing Text.less (env.HasClassAt fields stem) (classNames stems stem) where
  ascending := (Text.isListing_sorted _).ascending
  mem_iff _ := mem_classNames_iff.trans (hasClassAt_iff located).symm

theorem isListing_modulesOf (env : Environment) (fields : List ContainerField) :
    IsListing ModuleId.less (env.HasStructOf fields) (env.modulesOf (tags fields)) := by
  refine (isListing_sortedSet ModuleId.less_isTotal ModuleId.less_isStrict _).congr fun id => ?_
  rw [List.mem_flatMap]
  simp only [mem_modulesUsed_iff]
  rfl

/-- The imports of an alias file whose classes are located. -/
def importsAt (env : Environment) {fields : List ContainerField}
    (formed : ∀ tag ∈ tags fields, tag.WellFormed) {stems : List (String × Container)}
    (located : env.ClassStems fields stems) : env.AliasImports fields where
  client := (Text.sorted ((tags fields).flatMap libraryTypes)).filter isClientName
  runtime := (Text.sorted ((tags fields).flatMap libraryTypes)).filter fun name =>
    !isClientName name
  classes := (Text.sorted (stems.map Prod.fst)).map fun stem => (stem, classNames stems stem)
  modules := (env.modulesOf (tags fields)).map fun id => (id, env.bindingsAt id)
  client_listed := isListing_client formed
  runtime_listed := isListing_runtime formed
  stems_listed := by
    rw [List.map_map]
    exact (List.map_id _).symm ▸ isListing_stems located
  classes_listed := by
    rintro _ member
    obtain ⟨stem, _, rfl⟩ := List.mem_map.mp member
    exact isListing_classNames located stem
  modules_listed := by
    rw [List.map_map]
    exact (List.map_id _).symm ▸ env.isListing_modulesOf fields
  modules_located := by
    rintro _ member
    obtain ⟨id, used, rfl⟩ := List.mem_map.mp member
    exact bindingsPath_of_contains (contains_of_mem_modulesOf used)

/-- An alias file is made for parsed fields. It consists of its imports and of the aliases of the
fields. It imports from the client library and from the runtime library the types that keys and
values have or are arrays of, from each file of classes those of the fields whose class lies there,
and each known module that has a struct which is a key or value or makes up an array; everything
once, in ascending order, and nothing else. -/
theorem alias_imports_exact (parsed : ∀ field ∈ fields, field.IsParsed) {package : String}
    {module : ModuleId} {script : Script}
    (made : (env.aliasFile package module fields).outcome = .ok (path, script)) :
    ∃ imports : env.AliasImports fields,
      script = ⟨(imports.links path).map .importFrom ++
        (fields.map env.aliasOf).map .typeAlias⟩ := by
  have formed : ∀ tag ∈ tags fields, tag.WellFormed := by
    intro tag member
    obtain ⟨field, inFields, inField⟩ := List.mem_flatMap.mp member
    exact (parsed field inFields).wellFormed tag inField
  obtain ⟨rfl, _, stems, located, rfl⟩ := of_aliasFile made
  refine ⟨env.importsAt formed located, ?_⟩
  rw [aliasScript, AliasImports.links, libraryLinks, linkNames_eq_importOf, linkNames_eq_importOf]
  simp only [importsAt, stemLinks, moduleLinks, List.map_map]
  rfl

/-- An environment that knows the modules of a coin and of a gem. -/
def gemEnvironment : Environment where
  known := some (.ofList [(⟨"0x1", "Coin"⟩, "Std"), (⟨"0x2", "Gem"⟩, "Market")])

/-- Two fields of different containers whose classes lie in one file. The gem is only a parameter of
a struct. -/
def gemFields : List ContainerField :=
  [{ container := .table
     fieldName := "prices"
     key := .vector (.scalar "address")
     value := .struct ⟨"0x1", "Coin", "Coin"⟩ [.struct ⟨"0x2", "Gem", "Gem"⟩ []]
     qualifiedName := "0x1::Table::Table"
     owner := "Shelf" },
   { container := .iterableTable
     fieldName := "stock"
     key := .scalar "u64"
     value := .vector (.vector (.scalar "u128"))
     qualifiedName := "0x1::Table::IterableTable"
     owner := "Shelf" }]

theorem gemFields_areParsed : ∀ field ∈ gemFields, field.IsParsed := by
  have gem : (Tag.struct ⟨"0x2", "Gem", "Gem"⟩ []).WellFormed :=
    .struct (by decide) (by decide) (by decide) (by decide) (by decide) (by simp)
  have coin : (Tag.struct ⟨"0x1", "Coin", "Coin"⟩ [.struct ⟨"0x2", "Gem", "Gem"⟩ []]).WellFormed :=
    .struct (by decide) (by decide) (by decide) (by decide) (by decide) (by simpa using gem)
  simp only [gemFields, List.forall_mem_cons]
  refine ⟨?_, ?_, List.forall_mem_nil _⟩
  · refine ContainerField.isParsed_of_named ⟨"0x1", "Table", "Table"⟩ ?_ rfl
    refine .struct (by decide) (by decide) (by decide) (by decide) (by decide) ?_
    simpa using ⟨.vector (.scalar (by decide)), coin⟩
  · refine ContainerField.isParsed_of_named ⟨"0x1", "Table", "IterableTable"⟩ ?_ rfl
    refine .struct (by decide) (by decide) (by decide) (by decide) (by decide) ?_
    simpa using ⟨.scalar (by decide), .vector (.vector (.scalar (by decide)))⟩

/-- Everything that is used is imported; the module of the gem is not. -/
theorem alias_imports_exact_gem :
    (∀ field ∈ gemFields, field.IsParsed) ∧
    ∃ script, (gemEnvironment.aliasFile "Shop" ⟨"0x3", "Store"⟩ gemFields).outcome =
        .ok ("Shop/Store.tables.ts", script) ∧
      ∃ imports : gemEnvironment.AliasImports gemFields,
        script = ⟨(imports.links "Shop/Store.tables.ts").map .importFrom ++
          (gemFields.map gemEnvironment.aliasOf).map .typeAlias⟩ ∧
        imports.links "Shop/Store.tables.ts" =
          [⟨"aptos", .names ["HexString"]⟩, ⟨"@manahippo/move-to-ts", .names ["U128", "U64"]⟩,
            ⟨"../Std/Table.accessors", .names ["TypedIterableTable", "TypedTable"]⟩,
            ⟨"../Std/Coin", .whole "Coin$_"⟩] ∧
        gemFields.map gemEnvironment.aliasOf =
          [{ name := "Shelf$prices", value := "TypedTable<HexString[], Coin$_.Coin>" },
            { name := "Shelf$stock", value := "TypedIterableTable<U64, U128[][]>" }] := by
  let aliasFile := (gemEnvironment.aliasFile "Shop" ⟨"0x3", "Store"⟩ gemFields).outcome
  have computed : aliasFile.toOption.map (fun file => file.2.imports) = some
      [⟨"aptos", .names ["HexString"]⟩, ⟨"@manahippo/move-to-ts", .names ["U128", "U64"]⟩,
        ⟨"../Std/Table.accessors", .names ["TypedIterableTable", "TypedTable"]⟩,
        ⟨"../Std/Coin", .whole "Coin$_"⟩] := by decide
  obtain ⟨⟨path, script⟩, made⟩ := exists_of_isOk (by decide : aliasFile.isOk = true)
  cases (of_aliasFile made).1
  obtain ⟨imports, rfl⟩ := alias_imports_exact gemFields_areParsed made
  rw [made, Except.toOption, Option.map_some, Option.some_inj, Script.imports_append,
    Script.imports_map_importFrom, Script.imports_map_typeAlias, List.append_nil] at computed
  exact ⟨gemFields_areParsed, _, made, imports, rfl, computed, by decide⟩

end Environment

end MoveBindings
