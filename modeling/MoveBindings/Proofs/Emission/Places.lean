import MoveBindings.Proofs.Emission.Runs

/-!
# Where the files of a run lie

Each kind of file has its own ending, and every file but the index of the
project is an entry of a package's directory. The package and the stem of a
class file are found again in its path.
-/

namespace MoveBindings

/-- Texts with endings of which neither ends in the other are different. -/
theorem append_ne_append {ending other : String}
    (differ : ¬ending.toList <:+ other.toList ∧ ¬other.toList <:+ ending.toList)
    (a b : String) : a ++ ending ≠ b ++ other := by
  intro same
  have ofEnding : ending.toList <:+ (a ++ ending).toList := by simp
  have ofOther : other.toList <:+ (a ++ ending).toList := by simp [same]
  cases List.suffix_or_suffix_of_suffix ofEnding ofOther with
  | inl inOther => exact differ.1 inOther
  | inr inEnding => exact differ.2 inEnding

theorem aliasPath_eq (package : String) (id : ModuleId) :
    AliasFile.path package id = inPackage package (id.name ++ ".tables.ts") := by
  simp only [AliasFile.path, inPackage, String.append_assoc]

theorem packagePath_eq (package : String) :
    IndexFile.packagePath package = inPackage package "index.ts" := by
  simp only [IndexFile.packagePath, inPackage, String.append_assoc]
  rfl

theorem isEntry_index : Path.IsEntry "index.ts" := by
  refine ⟨⟨?_, ?_, ?_⟩, ?_⟩ <;> decide

theorem IsMoveIdentifier.isEntry_tables {name : String} (h : IsMoveIdentifier name) :
    Path.IsEntry (name ++ ".tables.ts") := h.isEntry_append (by decide)

theorem IsMoveIdentifier.isEntry_accessors {name : String} (h : IsMoveIdentifier name) :
    Path.IsEntry (name ++ ".accessors.ts") := h.isEntry_append (by decide)

namespace Environment

variable {env : Environment} {catalog : Catalog} {names : Container → QualifiedName}

/-- The path of a container's class. -/
theorem path_classFileAt (env : Environment) (names : Container → QualifiedName)
    (container : Container) :
    (env.classFileAt names container).file.path =
      inPackage (env.packageFor (names container).moduleId)
        ((names container).module ++ ".accessors.ts") := by
  simp only [classFileAt, classAt, inPackage, String.append_assoc]
  rfl

/-- The package of a class file is the one of its container's module. -/
theorem WellPlaced.package_classFileAt (w : env.WellPlaced catalog)
    (names : Container → QualifiedName) (container : Container) :
    (env.classFileAt names container).package = env.packageFor (names container).moduleId := by
  have noSlash := (w.packageFor_isMoveIdentifier (names container).moduleId).no_slash
  have slash : ("/" : String).toList = ['/'] := rfl
  rw [ClassFile.package, path_classFileAt, inPackage, String.append_assoc, String.toList_append,
    String.toList_append, slash, List.singleton_append, Text.cutAt_append_cons noSlash,
    String.ofList_toList]

/-- The stem of a class file is the name of its container's module with its kind. -/
theorem WellPlaced.stem_classFileAt (w : env.WellPlaced catalog)
    (names : Container → QualifiedName) (container : Container) :
    (env.classFileAt names container).stem = (names container).module ++ ".accessors" := by
  have noSlash := (w.packageFor_isMoveIdentifier (names container).moduleId).no_slash
  have slash : ("/" : String).toList = ['/'] := rfl
  have extension : (".accessors.ts" : String).toList =
      (".accessors" : String).toList ++ ['.'] ++ ['t'] ++ ['s'] := rfl
  rw [ClassFile.stem, path_classFileAt, inPackage, String.append_assoc, String.toList_append,
    String.toList_append, slash, List.singleton_append, Text.cutAt_append_cons noSlash,
    String.toList_append, extension]
  simp only [← List.append_assoc, List.dropLast_concat]
  rw [← String.toList_append, String.ofList_toList]

namespace Run

/-- A file of a run is an alias file, the index of a package, a class or the index of the
project. -/
theorem mem_sources_iff (run : Run env catalog names) {file : SourceAt} :
    file ∈ run.sources ↔
      (∃ aliases ∈ run.aliases, ∃ result ∈ aliases.modules, file = result.file) ∨
      (∃ aliases ∈ run.aliases, file = env.indexAt run.classes aliases) ∨
      (∃ container ∈ usedContainers run.aliases,
        file = (env.classFileAt names container).file) ∨
      file = ⟨IndexFile.projectPath, env.projectScript catalog.names⟩ := by
  simp only [sources, packageSources, classes, classesFor, List.mem_append, List.mem_flatMap,
    List.mem_map, List.mem_singleton]
  constructor
  · rintro ((⟨aliases, member, ⟨result, found, rfl⟩ | rfl⟩ | ⟨_, ⟨container, used, rfl⟩, rfl⟩) | rfl)
    · exact .inl ⟨aliases, member, result, found, rfl⟩
    · exact .inr (.inl ⟨aliases, member, rfl⟩)
    · exact .inr (.inr (.inl ⟨container, used, rfl⟩))
    · exact .inr (.inr (.inr rfl))
  · rintro (⟨aliases, member, result, found, rfl⟩ | ⟨aliases, member, rfl⟩ | ⟨container, used, rfl⟩ |
      rfl)
    · exact .inl (.inl ⟨aliases, member, .inl ⟨result, found, rfl⟩⟩)
    · exact .inl (.inl ⟨aliases, member, .inr rfl⟩)
    · exact .inl (.inr ⟨_, ⟨container, used, rfl⟩, rfl⟩)
    · exact .inr rfl

/-- An alias file lies in its package under the name of its module. -/
theorem path_of_mem (run : Run env catalog names) {aliases : PackageAliases}
    (member : aliases ∈ run.aliases) {result : ModuleAliases} (found : result ∈ aliases.modules) :
    result.file.path = inPackage aliases.package.name (result.module.name ++ ".tables.ts") := by
  obtain ⟨module, _, made⟩ := run.makesAliases_of_mem member found
  cases made with
  | some => exact aliasPath_eq aliases.package.name module.id

/-- The module of an alias file is named by an identifier. -/
theorem moduleName_of_mem (w : env.WellNamed catalog names) (run : Run env catalog names)
    {aliases : PackageAliases} (member : aliases ∈ run.aliases) {result : ModuleAliases}
    (found : result ∈ aliases.modules) : IsMoveIdentifier result.module.name := by
  obtain ⟨module, inModules, made⟩ := run.makesAliases_of_mem member found
  cases made with
  | some => exact w.declared.module _ (run.package_mem member) module inModules

/-- Only alias files have their ending. -/
theorem exists_of_tables (run : Run env catalog names) {file : SourceAt}
    (member : file ∈ run.sources) {stem : String} (ending : file.path = stem ++ ".tables.ts") :
    ∃ aliases ∈ run.aliases, ∃ result ∈ aliases.modules, file = result.file := by
  rcases run.mem_sources_iff.mp member with
    found | ⟨aliases, _, rfl⟩ | ⟨container, _, rfl⟩ | rfl
  · exact found
  · rw [indexAt, packagePath_eq, inPackage] at ending
    exact absurd ending (append_ne_append (by decide) _ _)
  · rw [path_classFileAt, inPackage, ← String.append_assoc] at ending
    exact absurd ending (append_ne_append (by decide) _ _)
  · have bare : IndexFile.projectPath = "" ++ "index.ts" := rfl
    rw [bare] at ending
    exact absurd ending (append_ne_append (by decide) _ _)

/-- The containers that an alias file uses are in use. -/
theorem mem_usedContainers (run : Run env catalog names) {aliases : PackageAliases}
    (member : aliases ∈ run.aliases) {result : ModuleAliases} (found : result ∈ aliases.modules)
    {container : Container} (used : container ∈ result.containers) :
    container ∈ usedContainers run.aliases :=
  mem_usedContainers_iff.mpr ⟨aliases, member, result, found, used⟩

end Run

end Environment

end MoveBindings
