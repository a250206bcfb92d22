import MoveBindings.Emission.IndexFile
import MoveBindings.Proofs.Outcomes
import MoveBindings.Proofs.TypeScript.Scripts

/-!
# Index files in closed form

An index can be made exactly when no child occurs twice. Renamings are noted on
the way but do not decide anything, so the file is a function of the children:
each is imported and exported from its own source.
-/

namespace MoveBindings

open TypeScript

namespace IndexFile

theorem firstRepeated?_eq_none_iff {seen names : List String} :
    firstRepeated? seen names = none ↔ names.Nodup ∧ ∀ name ∈ names, name ∉ seen := by
  induction names generalizing seen with
  | nil => simp [firstRepeated?]
  | cons name rest ih =>
    by_cases known : name ∈ seen
    · simp [firstRepeated?, known]
    · simp only [firstRepeated?, known, if_false, ih, List.nodup_cons, List.mem_cons,
        forall_eq_or_imp, not_false_eq_true, true_and, not_or]
      constructor
      · rintro ⟨distinct, fresh⟩
        exact ⟨⟨fun again => (fresh name again).1 rfl, distinct⟩,
          fun other found => (fresh other found).2⟩
      · rintro ⟨⟨once, distinct⟩, fresh⟩
        exact ⟨distinct, fun other found =>
          ⟨fun same => once (same ▸ found), fresh other found⟩⟩

/-- Names are accepted exactly when none occurs twice. -/
theorem distinct_eq_ok_iff {kind parent : String} {names : List String} {accepted : Unit} :
    distinct kind parent names = .ok accepted ↔ names.Nodup := by
  have unseen : firstRepeated? [] names = none ↔ names.Nodup ∧ ∀ name ∈ names, name ∉ [] :=
    firstRepeated?_eq_none_iff
  simp only [List.not_mem_nil, not_false_eq_true, implies_true, and_true] at unseen
  rw [← unseen, distinct]
  split <;> simp_all

end IndexFile

namespace Environment

open IndexFile

variable (env : Environment)

/-- What an index binds a module to. -/
def moduleEntry (name : String) : Child :=
  ⟨namespaceAlias (env.settings.naming.identifier name), "./" ++ name⟩

/-- What an index binds a file beside a module to. -/
def companionEntry (stem : String) : Child :=
  let (module, kind) := Text.cutAt '.' stem.toList
  ⟨env.settings.naming.identifier (String.ofList module) ++ "$" ++ String.ofList kind,
    "./" ++ stem⟩

/-- What the index of a project binds a package to. -/
def packageEntry (name : String) : Child :=
  ⟨env.settings.naming.identifier name, "./" ++ name⟩

theorem outcome_moduleChild (location name : String) :
    (env.moduleChild location name).outcome = .ok (env.moduleEntry name) := by
  simp [moduleChild, safeNamespace, moduleEntry, outcome_identifier]

theorem outcome_companionChild (location stem : String) :
    (env.companionChild location stem).outcome = .ok (env.companionEntry stem) := by
  simp [companionChild, companionEntry, outcome_identifier]

theorem outcome_packageChild (name : String) :
    (env.packageChild name).outcome = .ok (env.packageEntry name) := by
  simp [packageChild, packageEntry, outcome_identifier]

/-- The children of a package's index: its modules, then the files beside them. -/
def packageChildren (modules : List ModuleId) (companions : List String) : List Child :=
  (modules.map ModuleId.name).map env.moduleEntry ++ companions.map env.companionEntry

/-- The index of a package with its modules and the files beside them. -/
def packageScript (modules : List ModuleId) (companions : List String) : Script where
  nodes :=
    env.childLinks (env.packageChildren modules companions) ++
      [ .function
          { signature := { name := "loadParsers", params := [⟨"repo", parserRepo, ""⟩] }
            body := ((modules.map ModuleId.name).map env.moduleEntry).map loadStatement },
        .function
          { signature := { name := "getPackageRepo", returnType := parserRepo }
            body := [newRepo, .line "loadParsers(repo);"] ++ finishRepo } ]

/-- The index of a project with its packages. -/
def projectScript (packages : List String) : Script where
  nodes :=
    env.childLinks (packages.map env.packageEntry) ++
      [.function
        { signature := { name := "getProjectRepo", returnType := parserRepo }
          body := newRepo :: (packages.map env.packageEntry).map loadStatement ++ finishRepo }]

/-- A package has an index exactly when no module name and no file name occurs twice. -/
theorem packageIndex_eq_ok_iff {package : String} {modules : List ModuleId}
    {companions : List String} {script : Script} :
    (env.packageIndex package modules companions).outcome = .ok script ↔
      (modules.map ModuleId.name).Nodup ∧ companions.Nodup ∧
        script = env.packageScript modules companions := by
  have children := Emission.outcome_mapM_of_ok (env.outcome_moduleChild (packagePath package))
    (modules.map ModuleId.name)
  have others := Emission.outcome_mapM_of_ok (env.outcome_companionChild (packagePath package))
    companions
  simp only [packageIndex, Emission.outcome_bind_eq_ok_iff, Emission.outcome_ofExcept,
    distinct_eq_ok_iff, children, others, Emission.outcome_pure, Except.ok.injEq]
  constructor
  · rintro ⟨_, modulesOnce, _, rfl, _, companionsOnce, _, rfl, rfl⟩
    exact ⟨modulesOnce, companionsOnce, rfl⟩
  · rintro ⟨modulesOnce, companionsOnce, rfl⟩
    exact ⟨(), modulesOnce, _, rfl, (), companionsOnce, _, rfl, rfl⟩

/-- A project has an index exactly when no package name occurs twice. -/
theorem projectIndex_eq_ok_iff {packages : List String} {script : Script} :
    (env.projectIndex packages).outcome = .ok script ↔
      packages.Nodup ∧ script = env.projectScript packages := by
  have children := Emission.outcome_mapM_of_ok env.outcome_packageChild packages
  simp only [projectIndex, Emission.outcome_bind_eq_ok_iff, Emission.outcome_ofExcept,
    distinct_eq_ok_iff, children, Emission.outcome_pure, Except.ok.injEq]
  constructor
  · rintro ⟨_, once, _, rfl, rfl⟩
    exact ⟨once, rfl⟩
  · rintro ⟨once, rfl⟩
    exact ⟨(), once, _, rfl, rfl⟩

/-- An index imports the class of parser collections and every child. -/
theorem imports_childLinks (children : List Child) :
    Script.imports ⟨env.childLinks children⟩ =
      ⟨env.settings.runtimeModule, .names [parserRepo]⟩ :: children.map Child.link := by
  simp only [childLinks, List.cons_append, Script.imports_importFrom, Script.imports_append,
    Script.imports_map_importFrom, Script.imports_map_exportFrom, List.append_nil]

/-- An index exports every child. -/
theorem exports_childLinks (children : List Child) :
    Script.exports ⟨env.childLinks children⟩ = children.map Child.link := by
  simp only [childLinks, List.cons_append, Script.exports_importFrom, Script.exports_append,
    Script.exports_map_importFrom, Script.exports_map_exportFrom, List.nil_append]

@[simp] theorem imports_packageScript (modules : List ModuleId) (companions : List String) :
    (env.packageScript modules companions).imports =
      ⟨env.settings.runtimeModule, .names [parserRepo]⟩ ::
        (env.packageChildren modules companions).map Child.link := by
  simp [packageScript, imports_childLinks]

@[simp] theorem exports_packageScript (modules : List ModuleId) (companions : List String) :
    (env.packageScript modules companions).exports =
      (env.packageChildren modules companions).map Child.link := by
  simp [packageScript, exports_childLinks]

@[simp] theorem imports_projectScript (packages : List String) :
    (env.projectScript packages).imports =
      ⟨env.settings.runtimeModule, .names [parserRepo]⟩ ::
        (packages.map env.packageEntry).map Child.link := by
  simp [projectScript, imports_childLinks]

@[simp] theorem exports_projectScript (packages : List String) :
    (env.projectScript packages).exports = (packages.map env.packageEntry).map Child.link := by
  simp [projectScript, exports_childLinks]

end Environment

end MoveBindings
