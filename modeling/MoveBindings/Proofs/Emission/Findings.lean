import MoveBindings.Proofs.Emission.Runs

/-!
# What is found on the way

Most steps of generation note renamed identifiers and types without a known
module at most. Only the classes of containers are noted for another reason:
because a traversal has no limit, or because no index mentions the class. So the
findings about classes are those of the classes that are made, in order.
-/

namespace MoveBindings

/-- Whether a diagnostic is about a container's class: that it has a traversal without a limit, or
that it is in no index. -/
def Diagnostic.isAboutClass (d : Diagnostic) : Bool :=
  match d.finding with
  | .endlessTraversal _ | .unindexedClass _ => true
  | .untyped _ _ | .renamed _ _ => false

namespace Emission

variable {α β : Type}

/-- A list that is worked through finds what each of its elements does, in order. -/
theorem found_mapM {f : α → Emission β} {elements : List α} {results : List β}
    (h : (elements.mapM f).outcome = .ok results) :
    (elements.mapM f).found = elements.flatMap fun element => (f element).found := by
  induction elements generalizing results with
  | nil => rfl
  | cons element rest ih =>
    rw [List.mapM_cons] at h ⊢
    obtain ⟨result, first, h⟩ := outcome_bind_eq_ok_iff.mp h
    obtain ⟨others, later, _⟩ := outcome_bind_eq_ok_iff.mp h
    rw [found_bind_of_ok first, found_bind_of_ok later, ih later, List.flatMap_cons, pure_def,
      List.append_nil]

/-- A step finds nothing about classes. -/
def Unclassed (step : Emission α) : Prop := ∀ d ∈ step.found, d.isAboutClass = false

namespace Unclassed

theorem filter_eq_nil {step : Emission α} (h : step.Unclassed) :
    step.found.filter Diagnostic.isAboutClass = [] := by
  rw [List.filter_eq_nil_iff]
  intro d found
  simp [h d found]

theorem pure (a : α) : (Pure.pure a : Emission α).Unclassed := by
  intro d found
  cases found

theorem ofExcept (outcome : Except Failure α) : (Emission.ofExcept outcome).Unclassed := by
  intro d found
  cases found

theorem fail (failure : Failure) : (Emission.fail failure : Emission α).Unclassed := by
  intro d found
  cases found

theorem note {d : Diagnostic} (h : d.isAboutClass = false) : (Emission.note d).Unclassed := by
  intro other found
  cases List.mem_singleton.mp found
  exact h

theorem bind {first : Emission α} {next : α → Emission β} (h : first.Unclassed)
    (later : ∀ a, (next a).Unclassed) : (first >>= next).Unclassed := by
  cases outcome : first.outcome with
  | error failure =>
    intro d found
    rw [found_bind_of_error outcome] at found
    exact h d found
  | ok a =>
    intro d found
    rw [found_bind_of_ok outcome, List.mem_append] at found
    rcases found with first | second
    · exact h d first
    · exact later a d second

theorem map {step : Emission α} (f : α → β) (h : step.Unclassed) : (f <$> step).Unclassed := by
  rw [← bind_pure_comp]
  exact bind h fun a => pure (f a)

theorem mapM {f : α → Emission β} (h : ∀ element, (f element).Unclassed) (elements : List α) :
    (elements.mapM f).Unclassed := by
  induction elements with
  | nil => exact pure []
  | cons element rest ih =>
    rw [List.mapM_cons]
    exact bind (h element) fun result => bind ih fun others => pure (result :: others)

end Unclassed

end Emission

namespace Environment

open Emission

variable {env : Environment}

theorem unclassed_identifier (name location : String) :
    (env.identifier name location).Unclassed := by
  unfold identifier
  dsimp only
  split
  · exact .pure _
  · exact .bind (.note rfl) fun _ => .pure _

theorem unclassed_safeNamespace (module location : String) :
    (env.safeNamespace module location).Unclassed :=
  .map _ (unclassed_identifier module location)

theorem unclassed_aliasIdentifier (field : ContainerField) (location : String) :
    (env.aliasIdentifier field location).Unclassed := by
  refine .bind (unclassed_identifier _ _) fun name => ?_
  split
  · exact .pure name
  · exact .map _ (unclassed_identifier _ _)

theorem unclassed_aliasType (field : ContainerField) (tag : Tag) (location : String) :
    (env.aliasType field tag location).Unclassed := by
  unfold aliasType
  dsimp only
  split
  · split
    · exact .fail _
    · exact .bind (.note rfl) fun _ => .pure _
  · exact .pure _

theorem unclassed_fieldAlias (path : String) (taken : List String) (field : ContainerField) :
    (env.fieldAlias path taken field).Unclassed := by
  refine .bind (unclassed_aliasIdentifier field path) fun name => ?_
  split
  · exact .fail _
  · exact .bind (unclassed_aliasType field _ path) fun key =>
      .map _ (unclassed_aliasType field _ path)

theorem unclassed_fieldAliases (path : String) (taken : List String)
    (fields : List ContainerField) : (env.fieldAliases path taken fields).Unclassed := by
  induction fields generalizing taken with
  | nil => exact .pure []
  | cons field rest ih =>
    exact .bind (unclassed_fieldAlias path taken field) fun first => .map _ (ih _)

theorem unclassed_aliasSource (path : String) (fields : List ContainerField) :
    (env.aliasSource path fields).Unclassed :=
  .bind (unclassed_fieldAliases path [] fields) fun _ =>
    .bind (.ofExcept _) fun _ => .map _ (.ofExcept _)

theorem unclassed_packageAliases (package : Package) : (env.packageAliases package).Unclassed := by
  refine .map _ (.mapM (fun module => ?_) _)
  refine .bind (.ofExcept _) fun fields => ?_
  split
  · exact .pure none
  · exact .map _ (.map _ (unclassed_aliasSource _ _))

theorem unclassed_packageFiles (classes : List ClassFile) (aliases : PackageAliases) :
    (env.packageFiles classes aliases).Unclassed := by
  refine .map _ (.bind (.ofExcept _) fun _ => .bind (.mapM (fun name => ?_) _) fun _ =>
    .bind (.ofExcept _) fun _ => .map _ (.mapM (fun stem => ?_) _))
  · exact .map _ (unclassed_safeNamespace name _)
  · exact .map _ (unclassed_identifier _ _)

theorem unclassed_projectIndex (packages : List String) : (env.projectIndex packages).Unclassed :=
  .bind (.ofExcept _) fun _ => .map _ (.mapM (fun name => .map _ (unclassed_identifier name _)) _)

theorem unclassed_optionNamespace : env.optionNamespace.Unclassed :=
  unclassed_safeNamespace optionModule ""

theorem unclassed_classSource (container : Container) (path : String) (name : QualifiedName) :
    (env.classSource container path name).Unclassed := by
  unfold classSource
  cases container with
  | table => exact .bind (.pure _) fun _ => .pure _
  | iterableTable =>
    exact .bind unclassed_optionNamespace fun _ => .bind (.ofExcept _) fun _ =>
      .bind unclassed_optionNamespace fun _ => .bind (.pure _) fun _ => .pure _

/-! ## Classes -/

/-- What is noted about a class at a path: a traversal without a limit. -/
def endlessAt (env : Environment) (container : Container) (path : String) : List Diagnostic :=
  if container = .iterableTable ∧ env.settings.maxIterableEntries = none then
    [⟨.endlessTraversal container.className, path⟩]
  else []

/-- What is noted about a class that is made: a traversal without a limit, and that its package is
none of the given ones. -/
def aboutClass (env : Environment) (packages : List String) (c : ClassFile) : List Diagnostic :=
  env.endlessAt c.container c.file.path ++
    if c.package ∉ packages then
      [⟨.unindexedClass (c.container.configuredName env.settings), c.file.path⟩]
    else []

theorem found_noteEndless (container : Container) (path : String) :
    (env.noteEndless container path).found = env.endlessAt container path := by
  unfold noteEndless endlessAt
  split <;> rfl

theorem isAboutClass_of_mem_endlessAt {container : Container} {path : String} {d : Diagnostic}
    (found : d ∈ env.endlessAt container path) : d.isAboutClass = true := by
  unfold endlessAt at found
  split at found
  · cases List.mem_singleton.mp found
    rfl
  · cases found

variable {modules : ModuleMap} {container : Container}

/-- On the way to a class a missing limit is noted first. -/
theorem found_containerClass (known : env.known = some modules)
    (named : env.NamesContainer container) :
    (env.containerClass container).found =
      env.endlessAt container (env.classAt (env.nameOf container) ++ ".ts") ++
        (env.classSource container (env.classAt (env.nameOf container) ++ ".ts")
          (env.nameOf container)).found := by
  have path : (Emission.ofExcept
      (env.classFilePath (container.configuredName env.settings))).outcome = _ :=
    classFilePath_of_named known named
  have name : (Emission.ofExcept
      (containerName (container.configuredName env.settings))).outcome = _ := named
  have source := outcome_classSource_of_known known container
    (env.classAt (env.nameOf container) ++ ".ts") (env.nameOf container)
  rw [containerClass, found_bind_of_ok path, found_bind_of_ok name,
    found_bind_of_ok (outcome_noteEndless env container _), found_bind_of_ok source,
    found_noteEndless, pure_def, List.append_nil]
  rfl

/-- A class that can be made is noted for what it lacks. -/
theorem filter_found_classFile (known : env.known = some modules)
    (named : env.NamesContainer container) (packages : List String) :
    (env.classFile packages container).found.filter Diagnostic.isAboutClass =
      env.aboutClass packages (env.classFileAt env.nameOf container) := by
  have endless : (env.endlessAt container (env.classAt (env.nameOf container) ++ ".ts")).filter
      Diagnostic.isAboutClass =
        env.endlessAt container (env.classAt (env.nameOf container) ++ ".ts") :=
    List.filter_eq_self.mpr fun d found => isAboutClass_of_mem_endlessAt found
  have source : (env.classSource container (env.classAt (env.nameOf container) ++ ".ts")
      (env.nameOf container)).found.filter Diagnostic.isAboutClass = [] :=
    (unclassed_classSource _ _ _).filter_eq_nil
  have unindexed (c : ClassFile) (d : Diagnostic) (about : d.isAboutClass = true) :
      ((do if c.package ∉ packages then Emission.note d
           return c : Emission ClassFile).found.filter Diagnostic.isAboutClass) =
        if c.package ∉ packages then [d] else [] := by
    by_cases listed : c.package ∈ packages
    · simp [listed, pure_def]
    · simp [listed, bind_def, andThen, Emission.note, pure_def, about]
  rw [classFile, found_bind_of_ok (outcome_containerClass_of_named known named),
    found_containerClass known named, List.filter_append, List.filter_append, endless, source,
    List.append_nil, aboutClass]
  exact congrArg _ (unindexed (env.classFileAt env.nameOf container) _ rfl)

/-- What a run finds about classes is what each of its classes lacks. -/
theorem Run.filter_found {catalog : Catalog} (known : env.known = some catalog.packageOf)
    (run : Run env catalog env.nameOf) :
    (env.projectSources catalog).found.filter Diagnostic.isAboutClass =
      run.classes.flatMap (env.aboutClass catalog.names) := by
  have aliases : (catalog.packages.mapM env.packageAliases).outcome = .ok run.aliases :=
    outcome_mapM_eq_ok_iff.mpr run.made
  have classes : ((usedContainers run.aliases).mapM (env.classFile catalog.names)).outcome =
      .ok run.classes := outcome_mapM_classFile known run.makesAll
  have files := run.outcome_mapM_packageFiles
  have noAliases : ((catalog.packages.mapM env.packageAliases).found.filter
      Diagnostic.isAboutClass) = [] :=
    (Unclassed.mapM unclassed_packageAliases catalog.packages).filter_eq_nil
  have noFiles : ((run.aliases.mapM (env.packageFiles run.classes)).found.filter
      Diagnostic.isAboutClass) = [] :=
    (Unclassed.mapM (unclassed_packageFiles run.classes) run.aliases).filter_eq_nil
  have noIndex (result : TypeScript.Script → List SourceAt) :
      ((env.projectIndex catalog.names >>= fun index => pure (result index)).found.filter
        Diagnostic.isAboutClass) = [] :=
    (Unclassed.bind (unclassed_projectIndex catalog.names) fun _ => .pure _).filter_eq_nil
  rw [projectSources, found_bind_of_ok aliases, found_bind_of_ok classes, found_bind_of_ok files,
    List.filter_append, List.filter_append, List.filter_append, noAliases, noFiles, noIndex,
    List.nil_append, List.nil_append, List.append_nil, found_mapM classes, List.filter_flatMap,
    Run.classes, classesFor, List.flatMap_map]
  exact List.flatMap_congr fun container used =>
    filter_found_classFile known (namesContainer_of_used run.makesAll used) catalog.names

end Environment

end MoveBindings
