import MoveBindings.Proofs.Emission.IndexScopes

/-!
# What the load calls of an index reach

An index loads the parsers of its children by calls on the names to which the
children are bound. Such a call reaches its child when the name means nothing
else where the call stands: no parameter or variable of the function, no other
child, and none of the names that every index binds. In the index of a package
the names of modules end in a dollar sign and an underscore, so only children
can meet. In the index of a project packages have plain names, and three names
that the file binds itself are no names for packages.
-/

namespace MoveBindings

open TypeScript

namespace IndexFile

/-- The name on which a statement calls for the parsers of a child. -/
def loadedName? : Statement → Option String
  | .line text =>
    let (name, call) := Text.cutAt '.' text.toList
    if call = "loadParsers(repo);".toList then some (String.ofList name) else none
  | .block .. => none

/-- A function of an index calls for the parsers of the given children, of each in its turn and
through a name that denotes the child. -/
def CallsReach (file : Script) (functionName : String) (children : List String) : Prop :=
  ∃ function, file.function? functionName = some function ∧
    List.Forall₂ (fun child name => file.Denotes function name ("./" ++ child)) children
      (function.body.filterMap loadedName?)

/-- The function that loads the parsers of a package's modules. -/
def loadParsers (children : List Child) : Function where
  signature := { name := "loadParsers", params := [⟨"repo", parserRepo, ""⟩] }
  body := children.map loadStatement

/-- The function that makes a collection with the parsers of all packages. -/
def getProjectRepo (children : List Child) : Function where
  signature := { name := "getProjectRepo", returnType := parserRepo }
  body := newRepo :: children.map loadStatement ++ finishRepo

/-- The names that a project's index binds itself: the collection of parsers in the function, and in
the file the class of collections and the function. -/
def projectNames : List String := ["repo", parserRepo, "getProjectRepo"]

/-- Under the standard rules no name is a reserved word with its suffix, where the word is a name
too. -/
def WordsApart (names : List String) : Prop :=
  ∀ word ∈ NamingRules.standard.reservedWords, word ∈ names → word ++ "__" ∉ names

instance (names : List String) : Decidable (WordsApart names) :=
  inferInstanceAs (Decidable (∀ word ∈ _, _))

/-- Words are apart exactly when no two names become one identifier. -/
theorem wordsApart_iff {names : List String} (bare : ∀ name ∈ names, '#' ∉ name.toList) :
    WordsApart names ↔ ∀ a ∈ names, ∀ b ∈ names,
      NamingRules.standard.identifier a = NamingRules.standard.identifier b → a = b := by
  constructor
  · intro apart a inNames b otherInNames same
    rcases (NamingRules.identifier_standard_eq_iff (bare a inNames) (bare b otherInNames)).mp same
      with equal | ⟨reserved, rfl⟩ | ⟨reserved, rfl⟩
    · exact equal
    · exact absurd otherInNames (apart a reserved inNames)
    · exact absurd inNames (apart b reserved otherInNames)
  · intro injective word reserved inNames suffixedInNames
    have same := (NamingRules.identifier_standard_eq_iff (bare word inNames)
      (bare (word ++ "__") suffixedInNames)).mpr (.inr (.inl ⟨reserved, rfl⟩))
    have equal := injective word inNames (word ++ "__") suffixedInNames same
    have suffixed : ∀ word ∈ NamingRules.standard.reservedWords, word ≠ word ++ "__" := by decide
    exact suffixed word reserved equal

/-- A call for the parsers of a child is made on the name to which it is bound. -/
theorem loadedName?_loadStatement {child : Child} (noDot : '.' ∉ child.boundName.toList) :
    loadedName? (loadStatement child) = some child.boundName := by
  have shape : (child.boundName ++ ".loadParsers(repo);").toList =
      child.boundName.toList ++ '.' :: "loadParsers(repo);".toList := by
    simp
  rw [loadStatement, loadedName?, shape, Text.cutAt_append_cons noDot]
  simp

/-- A call for the parsers of a child declares nothing. -/
theorem declared?_loadStatement {child : Child} (noBlank : ' ' ∉ child.boundName.toList) :
    (loadStatement child).declared? = none := by
  apply Statement.declared?_line_of_notMem
  rw [String.toList_append, List.mem_append, not_or]
  exact ⟨noBlank, by decide⟩

/-- The names of children are words: neither dots nor blanks are in them. -/
def AreWords (children : List Child) : Prop :=
  ∀ child ∈ children, '.' ∉ child.boundName.toList ∧ ' ' ∉ child.boundName.toList

variable {children : List Child}

theorem filterMap_loadedName?_map (words : AreWords children) :
    (children.map loadStatement).filterMap loadedName? = children.map Child.boundName := by
  rw [List.filterMap_map, ← List.filterMap_eq_map]
  refine List.filterMap_congr fun child member => ?_
  exact loadedName?_loadStatement (words child member).1

theorem filterMap_declared?_map (words : AreWords children) :
    (children.map loadStatement).filterMap Statement.declared? = [] := by
  rw [List.filterMap_map, List.filterMap_eq_nil_iff]
  intro child member
  exact declared?_loadStatement (words child member).2

theorem filterMap_loadedName?_loadParsers (words : AreWords children) :
    (loadParsers children).body.filterMap loadedName? = children.map Child.boundName :=
  filterMap_loadedName?_map words

theorem filterMap_loadedName?_getProjectRepo (words : AreWords children) :
    (getProjectRepo children).body.filterMap loadedName? = children.map Child.boundName := by
  have first : loadedName? newRepo = none := by decide
  have last : finishRepo.filterMap loadedName? = [] := by decide
  rw [getProjectRepo, List.cons_append, List.filterMap_cons_none first, List.filterMap_append,
    filterMap_loadedName?_map words, last, List.append_nil]

/-- In both functions the collection of parsers is the one local name. -/
theorem localNames_loadParsers (words : AreWords children) :
    (loadParsers children).localNames = ["repo"] := by
  rw [Function.localNames, loadParsers]
  dsimp only
  rw [filterMap_declared?_map words]
  rfl

theorem localNames_getProjectRepo (words : AreWords children) :
    (getProjectRepo children).localNames = ["repo"] := by
  have first : newRepo.declared? = some "repo" := by decide
  have last : finishRepo.filterMap Statement.declared? = [] := by decide
  rw [Function.localNames, getProjectRepo]
  dsimp only
  rw [List.cons_append, List.filterMap_cons_some first, List.filterMap_append,
    filterMap_declared?_map words, last]
  rfl

end IndexFile

namespace Environment

open IndexFile

variable (env : Environment)

/-- Calls reach the children exactly when each is denoted by its name. -/
theorem callsReach_iff {file : Script} {functionName : String} {function : Function}
    {names : List String} {childOf : String → Child}
    (found : file.function? functionName = some function)
    (source : ∀ name, (childOf name).source = "./" ++ name)
    (calls : function.body.filterMap loadedName? = (names.map childOf).map Child.boundName) :
    CallsReach file functionName names ↔
      ∀ name ∈ names, file.Denotes function (childOf name).boundName (childOf name).source := by
  have unfolded : CallsReach file functionName names ↔
      List.Forall₂ (fun child name => file.Denotes function name ("./" ++ child)) names
        (function.body.filterMap loadedName?) := by
    constructor
    · rintro ⟨other, alsoFound, all⟩
      cases found.symm.trans alsoFound
      exact all
    · exact fun all => ⟨function, found, all⟩
  rw [unfolded, calls, List.map_map, List.forall₂_map_right_iff, List.forall₂_same]
  simp only [source, Function.comp_apply]

/-! ## Packages -/

theorem function?_packageScript (modules : List ModuleId) (companions : List String) :
    (env.packageScript modules companions).function? "loadParsers" =
      some (loadParsers ((modules.map ModuleId.name).map env.moduleEntry)) := by
  rw [packageScript, function?_childLinks_append]
  rfl

variable {env}

/-- The names of modules are words under the standard rules. -/
theorem areWords_modules (naming : env.settings.naming = .standard) {names : List String}
    (proper : ∀ name ∈ names, IsMoveIdentifier name) : AreWords (names.map env.moduleEntry) := by
  intro child member
  obtain ⟨name, inNames, rfl⟩ := List.mem_map.mp member
  have word := (proper name inNames).identifier_standard
  rw [boundName_moduleEntry, naming, Entry.boundName]
  simp only [String.toList_append, List.mem_append, not_or]
  exact ⟨⟨⟨word.no_dot, by decide⟩, by decide⟩,
    ⟨⟨word.notMem (by decide), by decide⟩, by decide⟩⟩

/-- Under the standard rules a child of a package's index has the name of a module when it has a
module's kind and the module's identifier. -/
theorem boundName_eq_module_iff {entry : Entry} {name : String} (proper : IsMoveIdentifier name) :
    entry.boundName .standard = Entry.boundName .standard ⟨name, "_"⟩ ↔
      entry.kind = "_" ∧
        NamingRules.standard.identifier entry.name = NamingRules.standard.identifier name := by
  constructor
  · intro same
    have noDollar := proper.identifier_standard.notMem (c := '$') (by decide)
    rcases Entry.append_dollar_cases same with
      ⟨names, kinds⟩ | ⟨middle, _, kind⟩ | ⟨middle, longer, _⟩
    · exact ⟨kinds, names⟩
    · change "_" = middle ++ "$" ++ entry.kind at kind
      have inKind : '$' ∈ ("_" : String).toList := by
        rw [kind]
        simp
      exact absurd inKind (by decide)
    · apply absurd _ noDollar
      change NamingRules.standard.identifier name = _ at longer
      rw [longer]
      simp
  · rintro ⟨kind, names⟩
    rw [Entry.boundName, Entry.boundName, kind, names]

/-- In a package's index the call for a module reaches it exactly when no other module has its
identifier and no file beside the modules takes its name. -/
theorem denotes_module_iff (naming : env.settings.naming = .standard) {modules : List ModuleId}
    {companions : List String} (proper : ∀ id ∈ modules, IsMoveIdentifier id.name)
    (once : (modules.map ModuleId.name).Nodup) (companionsOnce : companions.Nodup)
    {id : ModuleId} (member : id ∈ modules) :
    (env.packageScript modules companions).Denotes
        (loadParsers ((modules.map ModuleId.name).map env.moduleEntry))
        (env.moduleEntry id.name).boundName (env.moduleEntry id.name).source ↔
      (∀ other ∈ modules.map ModuleId.name, NamingRules.standard.identifier other =
        NamingRules.standard.identifier id.name → other = id.name) ∧
      ∀ stem ∈ companions, (Entry.ofStem stem).kind = "_" →
        NamingRules.standard.identifier (Entry.ofStem stem).name ≠
          NamingRules.standard.identifier id.name := by
  have named : ∀ name ∈ modules.map ModuleId.name, IsMoveIdentifier name :=
    List.forall_mem_map.mpr proper
  have inNames : id.name ∈ modules.map ModuleId.name := List.mem_map_of_mem member
  have child : env.moduleEntry id.name ∈ env.packageChildren modules companions :=
    List.mem_append_left _ (List.mem_map_of_mem inNames)
  -- What the index binds itself has no dollar sign.
  have free : (env.moduleEntry id.name).boundName ∉
      ["repo", parserRepo, "loadParsers", "getPackageRepo"] := by
    have noDollar : ∀ name ∈ ["repo", parserRepo, "loadParsers", "getPackageRepo"],
        '$' ∉ name.toList := by decide
    intro fixed
    apply noDollar _ fixed
    simp [boundName_moduleEntry, Entry.boundName]
  rw [denotes_child_iff (nodup_packageChildren proper once companionsOnce)
    (by decide : ["loadParsers", "getPackageRepo"].Nodup)
    (env.scope_packageScript modules companions) child,
    localNames_loadParsers (areWords_modules naming named), List.singleton_append]
  simp only [free, not_false_eq_true, true_and, packageChildren, List.forall_mem_append,
    List.forall_mem_map]
  have sameModule (other : String) :
      (env.moduleEntry other).boundName = (env.moduleEntry id.name).boundName ↔
        NamingRules.standard.identifier other = NamingRules.standard.identifier id.name := by
    simp only [boundName_moduleEntry, naming, boundName_eq_module_iff (proper id member), true_and]
  have sameCompanion (stem : String) :
      (env.companionEntry stem).boundName = (env.moduleEntry id.name).boundName ↔
        (Entry.ofStem stem).kind = "_" ∧ NamingRules.standard.identifier (Entry.ofStem stem).name =
          NamingRules.standard.identifier id.name := by
    simp only [boundName_moduleEntry, boundName_companionEntry, naming,
      boundName_eq_module_iff (proper id member)]
  have otherChild (stem : String) : env.companionEntry stem ≠ env.moduleEntry id.name :=
    (moduleEntry_ne_companionEntry (proper id member)).symm
  simp only [sameModule, sameCompanion, env.moduleEntry_injective.eq_iff, otherChild, imp_false,
    not_and, ne_eq]

/-! ## Projects -/

theorem areWords_packages (naming : env.settings.naming = .standard) {packages : List String}
    (proper : ∀ name ∈ packages, IsMoveIdentifier name) :
    AreWords (packages.map env.packageEntry) := by
  intro child member
  obtain ⟨name, inPackages, rfl⟩ := List.mem_map.mp member
  have word := (proper name inPackages).identifier_standard
  rw [packageEntry, naming]
  exact ⟨word.no_dot, word.notMem (by decide)⟩

theorem function?_projectScript (packages : List String) :
    (env.projectScript packages).function? "getProjectRepo" =
      some (getProjectRepo (packages.map env.packageEntry)) := by
  rw [projectScript, function?_childLinks_append]
  rfl

/-- Only the name itself becomes one of the names that a project's index binds. -/
theorem identifier_eq_projectName_iff {name fixed : String} (proper : IsMoveIdentifier name)
    (member : fixed ∈ projectNames) :
    NamingRules.standard.identifier name = fixed ↔ name = fixed := by
  have unsuffixed : ∀ fixed ∈ projectNames, '#' ∉ fixed.toList ∧
      NamingRules.standard.identifier fixed = fixed ∧
      fixed ∉ NamingRules.standard.reservedWords ∧
      ∀ word ∈ NamingRules.standard.reservedWords, fixed ≠ word ++ "__" := by decide
  obtain ⟨bare, kept, free, noWord⟩ := unsuffixed fixed member
  have bareName : '#' ∉ name.toList := proper.notMem (by decide)
  constructor
  · intro same
    rcases (NamingRules.identifier_standard_eq_iff bareName bare).mp (same.trans kept.symm) with
      equal | ⟨reserved, suffixed⟩ | ⟨reserved, _⟩
    · exact equal
    · exact absurd suffixed (noWord name reserved)
    · exact absurd reserved free
  · rintro rfl
    exact kept

/-- In a project's index the call for a package reaches it exactly when the package does not have a
name that the index binds itself and no other package has its identifier. -/
theorem denotes_package_iff (naming : env.settings.naming = .standard) {packages : List String}
    (proper : ∀ name ∈ packages, IsMoveIdentifier name) (once : packages.Nodup)
    {name : String} (member : name ∈ packages) :
    (env.projectScript packages).Denotes (getProjectRepo (packages.map env.packageEntry))
        (env.packageEntry name).boundName (env.packageEntry name).source ↔
      name ∉ projectNames ∧ ∀ other ∈ packages, NamingRules.standard.identifier other =
        NamingRules.standard.identifier name → other = name := by
  have free : (env.packageEntry name).boundName ∉ projectNames ↔ name ∉ projectNames := by
    have boundName : (env.packageEntry name).boundName = NamingRules.standard.identifier name := by
      rw [packageEntry, naming]
    rw [boundName]
    constructor
    · intro notBound fixed
      apply notBound
      rwa [(identifier_eq_projectName_iff (proper name member) fixed).mpr rfl]
    · intro notNamed fixed
      apply notNamed
      rwa [← (identifier_eq_projectName_iff (proper name member) fixed).mp rfl] at fixed
  have sameName (other : String) :
      (env.packageEntry other).boundName = (env.packageEntry name).boundName ↔
        NamingRules.standard.identifier other = NamingRules.standard.identifier name := by
    rw [packageEntry, packageEntry, naming]
  rw [denotes_child_iff (nodup_children once fun _ => rfl) (List.nodup_singleton "getProjectRepo")
    (scope_projectScript naming proper) (List.mem_map_of_mem member),
    localNames_getProjectRepo (areWords_packages naming proper)]
  refine and_congr free ?_
  simp only [List.forall_mem_map, sameName, env.packageEntry_injective.eq_iff]

/-! ## Indexes -/

/-- Under the standard rules, when all names are Move identifiers, the calls of a package's index
reach all modules exactly when no module has the name of a reserved word with its suffix beside the
word, and no file beside a module has the kind of modules and a module's identifier. Those of a
project's index reach all packages exactly when the same holds for reserved words, and no package
has one of the names that the index binds itself. -/
theorem load_calls_reach_iff {env : Environment} (naming : env.settings.naming = .standard) :
    (∀ (package : String) (modules : List ModuleId) (companions : List String) (script : Script),
      (∀ id ∈ modules, IsMoveIdentifier id.name) →
      (env.packageIndex package modules companions).outcome = .ok script →
      (CallsReach script "loadParsers" (modules.map ModuleId.name) ↔
        WordsApart (modules.map ModuleId.name) ∧
          ∀ id ∈ modules, ∀ stem ∈ companions, (Entry.ofStem stem).kind = "_" →
            NamingRules.standard.identifier (Entry.ofStem stem).name ≠
              NamingRules.standard.identifier id.name)) ∧
    ∀ (packages : List String) (script : Script), (∀ name ∈ packages, IsMoveIdentifier name) →
      (env.projectIndex packages).outcome = .ok script →
      (CallsReach script "getProjectRepo" packages ↔
        WordsApart packages ∧ ∀ name ∈ packages, name ∉ projectNames) := by
  constructor
  · intro package modules companions script proper made
    obtain ⟨once, companionsOnce, rfl⟩ := env.packageIndex_eq_ok_iff.mp made
    have named : ∀ name ∈ modules.map ModuleId.name, IsMoveIdentifier name :=
      List.forall_mem_map.mpr proper
    rw [callsReach_iff (env.function?_packageScript modules companions) (fun _ => rfl)
      (filterMap_loadedName?_loadParsers (areWords_modules naming named)),
      wordsApart_iff fun name member => (named name member).notMem (by decide)]
    rw [List.forall_mem_map]
    have denoted (id : ModuleId) (member : id ∈ modules) :=
      denotes_module_iff naming proper once companionsOnce member
    refine (forall₂_congr denoted).trans ?_
    constructor
    · intro reached
      refine ⟨fun a inNames b otherInNames same => ?_, fun id member => (reached id member).2⟩
      obtain ⟨id, member, rfl⟩ := List.mem_map.mp otherInNames
      exact (reached id member).1 a inNames same
    · rintro ⟨apart, kinds⟩ id member
      refine ⟨fun other others same => ?_, kinds id member⟩
      exact apart other others id.name (List.mem_map_of_mem member) same
  · intro packages script proper made
    obtain ⟨once, rfl⟩ := env.projectIndex_eq_ok_iff.mp made
    rw [callsReach_iff (function?_projectScript packages) (fun _ => rfl)
      (filterMap_loadedName?_getProjectRepo (areWords_packages naming proper)),
      wordsApart_iff fun name member => (proper name member).notMem (by decide)]
    have denoted (name : String) (member : name ∈ packages) :=
      denotes_package_iff naming proper once member
    refine (forall₂_congr denoted).trans ?_
    constructor
    · intro reached
      refine ⟨fun a inPackages b otherInPackages same => ?_, fun name member =>
        (reached name member).1⟩
      exact (reached b otherInPackages).2 a inPackages same
    · rintro ⟨apart, free⟩ name member
      refine ⟨free name member, fun other others same => ?_⟩
      exact apart other others name member same

/-- A package may not be called as the collection of parsers is. A module may. -/
theorem load_calls_reach_iff_repo :
    ∃ project package, (({} : Environment).projectIndex ["Market", "repo"]).outcome = .ok project ∧
      (({} : Environment).packageIndex "Shop" [⟨"0x2", "repo"⟩, ⟨"0x2", "new"⟩]
        ["repo.tables"]).outcome = .ok package ∧
      ¬CallsReach project "getProjectRepo" ["Market", "repo"] ∧
      CallsReach package "loadParsers" ["repo", "new"] := by
  obtain ⟨ofPackage, ofProject⟩ := @load_calls_reach_iff {} rfl
  have project : (({} : Environment).projectIndex ["Market", "repo"]).outcome = .ok _ :=
    ({} : Environment).projectIndex_eq_ok_iff.mpr ⟨by decide, rfl⟩
  have package : (({} : Environment).packageIndex "Shop" [⟨"0x2", "repo"⟩, ⟨"0x2", "new"⟩]
      ["repo.tables"]).outcome = .ok _ :=
    ({} : Environment).packageIndex_eq_ok_iff.mpr ⟨by decide, by decide, rfl⟩
  refine ⟨_, _, project, package, ?_, ?_⟩
  · rw [ofProject _ _ (by decide) project]
    decide
  · exact (ofPackage _ _ _ _ (by decide) package).mpr (by decide)

end Environment

end MoveBindings
