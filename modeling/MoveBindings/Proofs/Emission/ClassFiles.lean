import MoveBindings.Proofs.Emission.AliasOrder

/-!
# Which files declare classes

Alias files and indexes declare no classes. So the class of a container is
declared by one file of a run when the container is in use, and by none when it
is not. The traversal in the class of the iterable table is guarded when the
settings give a limit.
-/

namespace MoveBindings

open TypeScript

namespace TypeScript

theorem Script.class?_eq_none_iff {file : Script} {name : String} :
    file.class? name = none ↔
      ∀ head members, Node.classDecl head members ∈ file.nodes → head.name ≠ name := by
  rw [Script.class?, List.findSome?_eq_none_iff]
  constructor
  · intro none head members declared named
    have here := none _ declared
    simp [named] at here
  · intro other node member
    cases node with
    | classDecl head members => simp [other head members member]
    | _ => rfl

/-- Whether a statement throws an error. -/
def Statement.throws : Statement → Bool
  | .line text => "throw ".toList.isPrefixOf text.toList
  | .block _ _ _ => false

/-- Whether a statement may throw for the number of results. -/
def Statement.isGuard : Statement → Bool
  | .line _ => false
  | .block header body _ =>
    "if (result.length >= ".toList.isPrefixOf header.toList && body.any Statement.throws

/-- Whether a loop starts with a guard. -/
def Statement.isGuardedLoop : Statement → Bool
  | .line _ => false
  | .block header body _ =>
    "while ".toList.isPrefixOf header.toList && body.head?.any Statement.isGuard

/-- Whether a member of a class fetches all entries in a loop without a guard. -/
def Node.isUnguardedFetch : Node → Bool
  | .method m => m.signature.name == "fetchAll" && !m.body.any Statement.isGuardedLoop
  | _ => false

end TypeScript

/-- Whether a file declares the class of a container. -/
def SourceAt.declares (file : SourceAt) (container : Container) : Bool :=
  (file.source.class? container.className).isSome

/-- Whether a file declares a class of iterable tables that fetches all entries without a guard. -/
def SourceAt.hasUnguardedFetch (file : SourceAt) : Bool :=
  (file.source.class? Container.iterableTable.className).any fun declared =>
    declared.2.any Node.isUnguardedFetch

namespace ContainerClass

/-- A text starts with what its first part starts with. -/
theorem isPrefixOf_append {start first : String} (h : start.toList <+: first.toList)
    (rest : String) : start.toList.isPrefixOf (first ++ rest).toList = true := by
  rw [List.isPrefixOf_iff_prefix, String.toList_append]
  exact h.trans (List.prefix_append _ _)

theorem throws_throwing (template : String) : (throwing template).throws = true := by
  rw [throwing, Statement.throws, String.append_assoc]
  exact isPrefixOf_append (by decide) _

/-- What a limit puts before the traversal of an entry is a guard. -/
theorem isGuard_of_limitGuard (limit : Option Int) (rest : List Statement)
    (unguarded : rest.head?.any Statement.isGuard = false) :
    (limitGuard limit ++ rest).head?.any Statement.isGuard = limit.isSome := by
  cases limit with
  | none => exact unguarded
  | some limit =>
    rw [limitGuard, List.singleton_append, List.head?_cons, Option.any_some, Statement.isGuard,
      List.any_cons, throws_throwing, Bool.true_or, Bool.and_true, String.append_assoc]
    exact isPrefixOf_append (List.prefix_refl _) _

/-- The traversal is unguarded when there is no limit. -/
theorem isUnguardedFetch_fetchAll (option : String) (limit : Option Int) :
    Node.isUnguardedFetch (.method (fetchAll option limit)) = limit.isNone := by
  have guarded : (fetchAll option limit).body.any Statement.isGuardedLoop = limit.isSome := by
    simp only [fetchAll, List.any_cons, List.any_nil, Statement.isGuardedLoop, Bool.false_or,
      Bool.or_false]
    rw [isGuard_of_limitGuard limit _ rfl, String.append_assoc,
      isPrefixOf_append (by decide), Bool.true_and]
  rw [Node.isUnguardedFetch, guarded, Option.not_isSome]
  exact Bool.true_and _

end ContainerClass

namespace Environment

open ContainerClass

variable {env : Environment} {catalog : Catalog} {names : Container → QualifiedName}

/-- The class of the iterable table fetches without a guard when there is no limit. -/
theorem any_isUnguardedFetch_classMembers (container : Container) (name : QualifiedName) :
    (env.classMembers container name).any Node.isUnguardedFetch =
      (container == .iterableTable && env.settings.maxIterableEntries.isNone) := by
  cases container with
  | table => rfl
  | iterableTable =>
    have fetch := isUnguardedFetch_fetchAll env.optionName env.settings.maxIterableEntries
    simp only [classMembers, iterableTableMembers, List.any_cons, List.any_nil, fetch,
      Bool.or_false]
    rfl

/-- The file of a container's class declares this class and no other. -/
theorem declares_classFileAt (container other : Container) :
    (env.classFileAt names container).file.declares other = (container == other) := by
  rw [SourceAt.declares, Bool.eq_iff_iff, beq_iff_eq]
  constructor
  · intro declared
    by_contra different
    have none : (env.classFileAt names container).file.source.class? other.className = none := by
      rw [Script.class?_eq_none_iff]
      intro head members member
      simp only [classFileAt, classScript, List.mem_append, List.mem_map,
        List.mem_singleton] at member
      rcases member with ⟨_, _, link⟩ | same
      · cases link
      · cases same
        exact Container.className_injective.ne different
    rw [none] at declared
    cases declared
  · rintro rfl
    rw [classFileAt, class?_classScript]
    rfl

theorem hasUnguardedFetch_classFileAt (container : Container) :
    (env.classFileAt names container).file.hasUnguardedFetch =
      (container == .iterableTable && env.settings.maxIterableEntries.isNone) := by
  cases container with
  | table =>
    have other : (env.classFileAt names .table).file.declares .iterableTable = false :=
      declares_classFileAt .table .iterableTable
    rw [SourceAt.declares, Option.isSome_eq_false_iff, Option.isNone_iff_eq_none] at other
    rw [SourceAt.hasUnguardedFetch, other]
    rfl
  | iterableTable =>
    rw [SourceAt.hasUnguardedFetch, classFileAt, class?_classScript, Option.any_some,
      any_isUnguardedFetch_classMembers]

theorem declares_indexAt (classes : List ClassFile) (aliases : PackageAliases)
    (container : Container) : (env.indexAt classes aliases).declares container = false := by
  rw [SourceAt.declares, indexAt, Script.class?_eq_none_iff.mpr, Option.isSome_none]
  intro head members member
  simp [packageScript, childLinks] at member

theorem declares_projectScript (packages : List String) (path : String) (container : Container) :
    (SourceAt.mk path (env.projectScript packages)).declares container = false := by
  rw [SourceAt.declares, Script.class?_eq_none_iff.mpr, Option.isSome_none]
  intro head members member
  simp [projectScript, childLinks] at member

namespace Run

theorem declares_of_mem_packageSources (run : Run env catalog names) {aliases : PackageAliases}
    (member : aliases ∈ run.aliases) {file : SourceAt} (found : file ∈ run.packageSources aliases)
    (container : Container) : file.declares container = false := by
  rw [packageSources, List.mem_append, List.mem_singleton, List.mem_map] at found
  rcases found with ⟨result, found, rfl⟩ | rfl
  · obtain ⟨module, _, made⟩ := run.makesAliases_of_mem member found
    cases made with
    | some _ _ made =>
      obtain ⟨_, stems, _, rfl⟩ := of_aliasSource made
      rw [SourceAt.declares, Script.class?_eq_none_iff.mpr, Option.isSome_none]
      intro head members member
      simp [aliasScript] at member
  · exact declares_indexAt _ _ container

/-- The class of a container that is in use is declared by its file alone, and that of any other by
no file. -/
theorem filter_declares (run : Run env catalog names) (container : Container) :
    run.sources.filter (SourceAt.declares · container) =
      if catalog.Uses env.settings container then [(env.classFileAt names container).file]
      else [] := by
  have noPackage : (run.aliases.flatMap run.packageSources).filter
      (SourceAt.declares · container) = [] := by
    rw [List.filter_eq_nil_iff]
    intro file member
    obtain ⟨aliases, inRun, found⟩ := List.mem_flatMap.mp member
    simp [run.declares_of_mem_packageSources inRun found container]
  have noIndex : [SourceAt.mk IndexFile.projectPath (env.projectScript catalog.names)].filter
      (SourceAt.declares · container) = [] := by
    rw [List.filter_cons_of_neg (by simp [declares_projectScript]), List.filter_nil]
  have once : (usedContainers run.aliases).filter (· == container) =
      if catalog.Uses env.settings container then [container] else [] := by
    rw [List.filter_beq, (usedContainers_nodup run.aliases).count]
    simp only [run.mem_usedContainers_iff]
    split <;> rfl
  rw [sources, List.filter_append, List.filter_append, noPackage, noIndex, List.nil_append,
    List.append_nil, classes, classesFor, List.map_map, List.filter_map]
  have chosen : ((SourceAt.declares · container) ∘ ClassFile.file ∘ env.classFileAt names) =
      (· == container) := funext fun other => declares_classFileAt other container
  rw [chosen, once]
  split <;> rfl

end Run

end Environment

end MoveBindings
