import MoveBindings.Container
import MoveBindings.Emission.ContainerClassPath
import MoveBindings.Emission.Links

/-!
# Classes of containers

For each container in use one file holds a generic class. It checks that a field
has the container's type, and looks entries up through the client. The class of
the iterable table also fetches all entries by following the links, and stops
with an error at a limit if the settings give one.
-/

namespace MoveBindings

open TypeScript

namespace ContainerClass

/-- A value put into a template text of the generated code. -/
def inserted (expression : String) : String := "$\x7b" ++ expression ++ "\x7d"

/-- A statement that throws an error with a template text. -/
def throwing (template : String) : Statement :=
  .line ("throw new Error(`" ++ template ++ "`);")

/-- The number of type parameters of every container. -/
def typeParamCount : Nat := 2

/-- The type parameters of the generated classes: the types of keys and values. -/
def typeParams : List String := ["K", "V"]

/-- Where the generated code finds a table's handle. -/
def tableHandle : Container → String
  | .table => "this.table.handle.value.toString()"
  | .iterableTable => "this.table.inner.handle.value.toString()"

/-- The tag that lookups pass for the value. -/
def valueTag : Container → String
  | .table => "this.valueTag"
  | .iterableTable => "this.iterValueTag"

/-- The type of what a lookup returns. -/
def entryType : Container → String
  | .table => "V"
  | .iterableTable => iterableValueName

/-- The library names that a container's class uses. -/
def libraryNames : Container → List String
  | .table => ["AptosClient", "AptosParserRepo", "FieldDeclType", "StructTag", "TypeTag"]
  | .iterableTable =>
    ["AptosClient", "HexString", "AptosParserRepo", "FieldDeclType", "StructTag", "TypeTag"]

/-- The structs that a container's class imports from the container's module. -/
def structNames (container : Container) (struct : String) : List String :=
  match container with
  | .table => [struct]
  | .iterableTable => [struct, iterableValueName]

/-- Makes an instance for a field after checking its type: a struct, of the right name, with the
right number of parameters. -/
def buildFromField (container : Container) (qualifiedName struct : String) : Method where
  signature :=
    { name := "buildFromField", typeParams
      params := [⟨"table", struct, ""⟩, ⟨"field", "FieldDeclType", ""⟩]
      returnType := container.className ++ "<K, V>" }
  isStatic := true
  body :=
    [ .line "const tag = field.typeTag;",
      .block "if (!(tag instanceof StructTag))"
        [throwing ("Field " ++ inserted "field.name" ++
          " is not a struct type, expected " ++ qualifiedName)] "",
      .block ("if (tag.getParamlessName() !== '" ++ qualifiedName ++ "')")
        [throwing ("Field " ++ inserted "field.name" ++ " is " ++
          inserted "tag.getParamlessName()" ++ ", expected " ++ qualifiedName)] "",
      .block ("if (tag.typeParams.length !== " ++ toString typeParamCount ++ ")")
        [throwing ("Field " ++ inserted "field.name" ++ " has " ++
          inserted "tag.typeParams.length" ++ " type parameters, expected " ++
          toString typeParamCount)] "",
      .line "const [keyTag, valueTag] = tag.typeParams;",
      .line ("return new " ++ container.className ++ "<K, V>(table, keyTag, valueTag);") ]

/-- Keeps the table and its tags. An iterable table also keeps the tag of what it stores. -/
def constructor (container : Container) (name : QualifiedName) : Constructor where
  params :=
    [ ⟨"table", name.name, "public"⟩, ⟨"keyTag", "TypeTag", "public"⟩,
      ⟨"valueTag", "TypeTag", "public"⟩ ]
  body :=
    match container with
    | .table => []
    | .iterableTable =>
      [.line ("this.iterValueTag = new StructTag(new HexString(\"" ++ name.address ++ "\"), \"" ++
        name.module ++ "\", \"" ++ iterableValueName ++ "\", [keyTag, valueTag]);")]

/-- Looks an entry up and returns it as the client delivers it. -/
def loadEntryRaw (container : Container) : Method where
  signature :=
    { name := "loadEntryRaw"
      params := [⟨"client", "AptosClient", ""⟩, ⟨"key", "K", ""⟩]
      returnType := "Promise<any>", isAsync := true }
  body :=
    [.block ("return await client.getTableItem(" ++ tableHandle container ++ ",")
      [ .line "key_type: $.getTypeTagFullname(this.keyTag),",
        .line ("value_type: $.getTypeTagFullname(" ++ valueTag container ++ "),"),
        .line "key: $.moveValueToOpenApiObject(key, this.keyTag)," ] ");"]

/-- Looks an entry up and parses it. -/
def loadEntry (container : Container) : Method where
  signature :=
    { name := "loadEntry"
      params := [⟨"client", "AptosClient", ""⟩, ⟨"repo", "AptosParserRepo", ""⟩, ⟨"key", "K", ""⟩]
      returnType := "Promise<" ++ entryType container ++ ">", isAsync := true }
  body :=
    [ .line "const rawVal = await this.loadEntryRaw(client, key);",
      .line ("return repo.parse(rawVal.data, " ++ valueTag container ++ ") as " ++
        entryType container ++ ";") ]

/-- Stops a traversal that has reached its limit. -/
def limitGuard (limit : Option Int) : List Statement :=
  match limit with
  | none => []
  | some limit =>
    [.block ("if (result.length >= " ++ toString limit ++ ")")
      [throwing (Container.iterableTable.className ++ ".fetchAll exceeded " ++ toString limit ++
        " entries")] ""]

/-- Follows the links of an iterable table from its head, one lookup for each entry. -/
def fetchAll (option : String) (limit : Option Int) : Method where
  signature :=
    { name := "fetchAll"
      params := [⟨"client", "AptosClient", ""⟩, ⟨"repo", "AptosParserRepo", ""⟩]
      returnType := "Promise<[K, V][]>", isAsync := true }
  body :=
    [ .line "const result: [K, V][] = [];",
      .line "const cache = new $.DummyCache();",
      .line "let next = this.table.head;",
      .block ("while (next && " ++ option ++ ".is_some$(next, cache, [this.keyTag]))")
        (limitGuard limit ++
          [ .line ("const key = " ++ option ++ ".borrow$(next, cache, [this.keyTag]) as K;"),
            .line "const iterVal = await this.loadEntry(client, repo, key);",
            .line "const value = iterVal.val as V;",
            .line "result.push([key, value]);",
            .line "next = iterVal.next;" ]) "",
      .line "return result;" ]

/-- The members of the plain table's class. -/
def tableMembers (name : QualifiedName) (qualifiedName : String) : List Node :=
  [ .method (buildFromField .table qualifiedName name.name),
    .constructor (constructor .table name),
    .method (loadEntryRaw .table),
    .method (loadEntry .table) ]

/-- The members of the iterable table's class. -/
def iterableTableMembers (name : QualifiedName) (qualifiedName option : String)
    (limit : Option Int) : List Node :=
  [ .method (buildFromField .iterableTable qualifiedName name.name),
    .property ⟨"iterValueTag", "StructTag"⟩,
    .constructor (constructor .iterableTable name),
    .method (loadEntryRaw .iterableTable),
    .method (loadEntry .iterableTable),
    .method (fetchAll option limit) ]

end ContainerClass

namespace Environment

open ContainerClass

/-- The name of the module that holds the links of iterable tables. -/
def optionModule : String := "Option"

/-- The alias for the module of links. -/
def optionNamespace (env : Environment) : Emission String := env.safeNamespace optionModule ""

/-- What a container's class imports besides modules that only some containers need. -/
def classImports (env : Environment) (container : Container) (name : QualifiedName) :
    List Link :=
  env.runtimeLink :: env.libraryLinks (libraryNames container) ++
    [⟨"./" ++ name.module, .names (structNames container name.name)⟩]

/-- The file of a container's class at a path. The alias for the module of links is asked for once
for its import and once for its use. -/
def classSource (env : Environment) (container : Container) (path : String)
    (name : QualifiedName) : Emission Script := do
  let qualifiedName := container.configuredName env.settings
  let (links, members) ← match container with
    | .table => pure ([], tableMembers name qualifiedName)
    | .iterableTable => do
      let imported ← env.optionNamespace
      let link ← Emission.ofExcept
        (env.bindingsLink path ⟨name.address, optionModule⟩ (some imported))
      let option ← env.optionNamespace
      pure ([link], iterableTableMembers name qualifiedName option
        env.settings.maxIterableEntries)
  let imports := env.classImports container name ++ links
  return ⟨imports.map .importFrom ++
    [.classDecl { name := container.className, typeParams } members]⟩

/-- Notes a traversal without a limit. -/
def noteEndless (env : Environment) (container : Container) (path : String) : Emission Unit :=
  if container = .iterableTable ∧ env.settings.maxIterableEntries = none then
    Emission.note ⟨.endlessTraversal container.className, path⟩
  else pure ()

/-- The file of a container's class, as its path and syntax. -/
def containerClass (env : Environment) (container : Container) : Emission (String × Script) := do
  let qualifiedName := container.configuredName env.settings
  let path ← Emission.ofExcept (env.classFilePath qualifiedName)
  let name ← Emission.ofExcept (containerName qualifiedName)
  env.noteEndless container path
  return (path, ← env.classSource container path name)

end Environment

end MoveBindings
