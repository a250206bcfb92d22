import Mathlib.Data.List.Nodup
import MoveBindings.Proofs.Emission.Indexes
import MoveBindings.Proofs.Identifier
import MoveBindings.Proofs.TypeScript.Scopes

/-!
# The names that an index binds

An index refuses children that occur twice, by their own names. What it binds
are the identifiers of these names, and different names can have one
identifier, so children that are accepted can still share a name. When they do
is a question about the naming rules alone, and is answered here for all rules.
-/

namespace MoveBindings

open TypeScript

namespace Child

/-- A child without a name is bound to nothing. -/
theorem namespace?_link (child : Child) :
    child.link.namespace? = if child.boundName = "" then none else some child.boundName := by
  obtain ⟨boundName, source⟩ := child
  by_cases empty : boundName = ""
  · subst empty
    rfl
  · simp [link, Binding.of, Link.namespace?, empty]

/-- The name of a child with its meaning. -/
def binding (child : Child) : String × Meaning := (child.boundName, .whole child.source)

theorem binding_injective : Function.Injective binding := by
  rintro ⟨boundName, source⟩ ⟨other, otherSource⟩ same
  cases same
  rfl

/-- A child with a name is bound to it, and to no other. -/
theorem scope_link {child : Child} (named : child.boundName ≠ "") :
    child.link.scope = [child.binding] := by
  obtain ⟨boundName, source⟩ := child
  change boundName ≠ "" at named
  simp [link, Binding.of, Link.scope, binding]

/-- The names to which children are bound. -/
theorem filterMap_namespace?_link (children : List Child) :
    (children.map link).filterMap Link.namespace? =
      (children.map boundName).filter (· ≠ "") := by
  rw [List.filterMap_map, List.filter_map, ← List.filterMap_eq_filter, List.map_filterMap]
  refine List.filterMap_congr fun child _ => ?_
  rw [Function.comp_apply, namespace?_link]
  by_cases empty : child.boundName = "" <;> simp [empty, Option.guard]

end Child

namespace IndexFile

/-- Names of which one occurs twice are refused. -/
theorem exists_distinct_eq_error (kind parent : String) {names : List String}
    (twice : ¬names.Nodup) :
    ∃ repeated, distinct kind parent names = .error (.duplicate repeated) := by
  cases outcome : distinct kind parent names with
  | ok accepted => exact absurd (distinct_eq_ok_iff.mp outcome) twice
  | error failure =>
    unfold distinct at outcome
    split at outcome
    · cases outcome
      exact ⟨_, rfl⟩
    · cases outcome

/-- A child of a package's index, by the two parts of which the name that it is bound to is made. A
module has the kind `_`. -/
structure Entry where
  name : String
  kind : String
deriving DecidableEq, Repr

namespace Entry

/-- A module. -/
def ofModule (id : ModuleId) : Entry := ⟨id.name, "_"⟩

/-- A file beside a module: its kind follows the first dot. -/
def ofStem (stem : String) : Entry :=
  let (name, kind) := Text.cutAt '.' stem.toList
  ⟨String.ofList name, String.ofList kind⟩

/-- The children of a package's index, in order. -/
def all (modules : List ModuleId) (companions : List String) : List Entry :=
  modules.map ofModule ++ companions.map ofStem

/-- The name to which a child is bound. -/
def boundName (rules : NamingRules) (e : Entry) : String := rules.identifier e.name ++ "$" ++ e.kind

/-- Two children that are bound to one name. Either they are of one kind and their names are equal
or clash, or the identifier of one ends where the kind of the other begins. -/
inductive Meet (rules : NamingRules) : Entry → Entry → Prop where
  | equal {a b : Entry} (kind : a.kind = b.kind) (name : a.name = b.name) : Meet rules a b
  | clash {a b : Entry} (kind : a.kind = b.kind) (name : rules.Clash a.name b.name) :
      Meet rules a b
  | overlap {a b : Entry} {middle : String}
      (name : rules.identifier a.name = rules.identifier b.name ++ "$" ++ middle)
      (kind : b.kind = middle ++ "$" ++ a.kind) : Meet rules a b

theorem Meet.boundName_eq {rules : NamingRules} {a b : Entry} (h : Meet rules a b) :
    a.boundName rules = b.boundName rules := by
  cases h with
  | equal kind name => rw [boundName, boundName, kind, name]
  | clash kind name => rw [boundName, boundName, kind, name.identifier_eq]
  | overlap name kind => simp only [boundName, name, kind, String.append_assoc]

/-- A list that is divided by one element in two ways has that element twice. -/
theorem append_cons_cases {α : Type} {a b x y : List α} {c : α} (same : a ++ c :: x = b ++ c :: y) :
    (a = b ∧ x = y) ∨ (∃ middle, a = b ++ c :: middle ∧ y = middle ++ c :: x) ∨
      ∃ middle, b = a ++ c :: middle ∧ x = middle ++ c :: y := by
  rcases List.append_eq_append_iff.mp same with ⟨between, rfl, later⟩ | ⟨between, rfl, later⟩
  · cases between with
    | nil =>
      cases later
      exact .inl ⟨(List.append_nil a).symm, rfl⟩
    | cons first middle =>
      cases later
      exact .inr (.inr ⟨middle, rfl, rfl⟩)
  · cases between with
    | nil =>
      cases later
      exact .inl ⟨List.append_nil b, rfl⟩
    | cons first middle =>
      cases later
      exact .inr (.inl ⟨middle, rfl, rfl⟩)

/-- The same for texts and a dollar sign. -/
theorem append_dollar_cases {a b x y : String} (same : a ++ "$" ++ x = b ++ "$" ++ y) :
    (a = b ∧ x = y) ∨ (∃ middle, a = b ++ "$" ++ middle ∧ y = middle ++ "$" ++ x) ∨
      ∃ middle, b = a ++ "$" ++ middle ∧ x = middle ++ "$" ++ y := by
  have dollar : ("$" : String).toList = ['$'] := rfl
  have texts := congrArg String.toList same
  simp only [String.toList_append, dollar, List.append_assoc, List.singleton_append] at texts
  rcases append_cons_cases texts with
    ⟨starts, ends⟩ | ⟨middle, starts, ends⟩ | ⟨middle, starts, ends⟩
  · exact .inl ⟨String.toList_injective starts, String.toList_injective ends⟩
  · refine .inr (.inl ⟨String.ofList middle, ?_, ?_⟩) <;> apply String.toList_injective
    · simp [starts, dollar]
    · simp [ends, dollar]
  · refine .inr (.inr ⟨String.ofList middle, ?_, ?_⟩) <;> apply String.toList_injective
    · simp [starts, dollar]
    · simp [ends, dollar]

/-- Two children are bound to one name exactly when they meet. -/
theorem boundName_eq_iff {rules : NamingRules} {a b : Entry} :
    a.boundName rules = b.boundName rules ↔ Meet rules a b ∨ Meet rules b a := by
  constructor
  · intro same
    rcases append_dollar_cases same with
      ⟨names, kinds⟩ | ⟨middle, name, kind⟩ | ⟨middle, name, kind⟩
    · rcases NamingRules.identifier_eq_iff.mp names with equal | clash | clash
      · exact .inl (.equal kinds equal)
      · exact .inl (.clash kinds clash)
      · exact .inr (.clash kinds.symm clash)
    · exact .inl (.overlap name kind)
    · exact .inr (.overlap name kind)
  · rintro (meet | meet)
    · exact meet.boundName_eq
    · exact meet.boundName_eq.symm

end Entry

/-- What is known about an index. It is refused when its children repeat. Otherwise it is made, it
exports what it imports, and its namespaces are distinct exactly when its children are apart. -/
def DistinctNamespaces (outcome : Except Failure Script) (once apart : Prop) : Prop :=
  (¬once → ∃ repeated, outcome = .error (.duplicate repeated)) ∧
    (once → ∃ script, outcome = .ok script ∧
      script.exportedNamespaces = script.importedNamespaces ∧
      (script.importedNamespaces.Nodup ↔ apart))

end IndexFile

namespace Environment

open IndexFile

variable (env : Environment)

theorem boundName_packageChildren (modules : List ModuleId) (companions : List String) :
    (env.packageChildren modules companions).map Child.boundName =
      (Entry.all modules companions).map (Entry.boundName env.settings.naming) := by
  simp only [packageChildren, Entry.all, List.map_append, List.map_map]
  congr 1
  refine List.map_congr_left fun id _ => ?_
  simp only [Function.comp_apply, moduleEntry, namespaceAlias, Entry.ofModule, Entry.boundName,
    String.append_assoc]
  rfl

/-- Every child of a package's index is bound to a name. -/
theorem boundName_ne_empty_of_mem {modules : List ModuleId} {companions : List String}
    {child : Child} (member : child ∈ env.packageChildren modules companions) :
    child.boundName ≠ "" := by
  have bound := List.mem_map_of_mem (f := Child.boundName) member
  rw [boundName_packageChildren] at bound
  obtain ⟨entry, _, same⟩ := List.mem_map.mp bound
  rw [← same]
  simp [Entry.boundName]

theorem importedNamespaces_packageScript (modules : List ModuleId) (companions : List String) :
    (env.packageScript modules companions).importedNamespaces =
      (Entry.all modules companions).map (Entry.boundName env.settings.naming) := by
  rw [Script.importedNamespaces, imports_packageScript]
  have library : Link.namespace? ⟨env.settings.runtimeModule, .names [parserRepo]⟩ = none := rfl
  rw [List.filterMap_cons, library]
  dsimp only
  rw [Child.filterMap_namespace?_link, List.filter_eq_self.mpr, boundName_packageChildren]
  intro name found
  obtain ⟨child, member, rfl⟩ := List.mem_map.mp found
  exact decide_eq_true (env.boundName_ne_empty_of_mem member)

theorem exportedNamespaces_packageScript (modules : List ModuleId) (companions : List String) :
    (env.packageScript modules companions).exportedNamespaces =
      (env.packageScript modules companions).importedNamespaces := by
  rw [Script.exportedNamespaces, Script.importedNamespaces, exports_packageScript,
    imports_packageScript]
  rfl

/-- The index of a project binds packages to their identifiers, unless these are empty. -/
theorem importedNamespaces_projectScript (packages : List String) :
    (env.projectScript packages).importedNamespaces =
      (packages.map env.settings.naming.identifier).filter (· ≠ "") := by
  have library : Link.namespace? ⟨env.settings.runtimeModule, .names [parserRepo]⟩ = none := rfl
  rw [Script.importedNamespaces, imports_projectScript, List.filterMap_cons, library]
  dsimp only
  rw [Child.filterMap_namespace?_link, List.map_map]
  rfl

theorem exportedNamespaces_projectScript (packages : List String) :
    (env.projectScript packages).exportedNamespaces =
      (env.projectScript packages).importedNamespaces := by
  rw [Script.exportedNamespaces, Script.importedNamespaces, exports_projectScript,
    imports_projectScript]
  rfl

/-- The namespaces of a package's index are distinct when no two children meet. -/
theorem nodup_boundNames_iff {rules : NamingRules} {entries : List Entry} :
    (entries.map (Entry.boundName rules)).Nodup ↔
      entries.Pairwise fun a b => ¬(Entry.Meet rules a b ∨ Entry.Meet rules b a) := by
  simp only [List.Nodup, List.pairwise_map, ne_eq, Entry.boundName_eq_iff]

/-- The namespaces of a project's index are distinct when names clash only in the empty
identifier. -/
theorem nodup_identifiers_iff {rules : NamingRules} {names : List String} (once : names.Nodup) :
    ((names.map rules.identifier).filter (· ≠ "")).Nodup ↔
      ∀ a ∈ names, ∀ b ∈ names, rules.Clash a b → rules.identifier a = "" := by
  rw [List.filter_map, List.nodup_map_iff_inj_on (once.filter _)]
  simp only [List.mem_filter, Function.comp_apply, decide_eq_true_eq, and_imp]
  constructor
  · intro injective a inNames b otherInNames clash
    by_contra named
    have otherNamed : rules.identifier b ≠ "" := clash.identifier_eq ▸ named
    exact clash.ne (injective a inNames named b otherInNames otherNamed clash.identifier_eq)
  · intro clashes a inNames named b otherInNames otherNamed same
    rcases NamingRules.identifier_eq_iff.mp same with equal | clash | clash
    · exact equal
    · exact absurd (clashes a inNames b otherInNames clash) named
    · exact absurd (clashes b otherInNames a inNames clash) otherNamed

/-- A package's index is refused when a module's name or a file's name occurs twice. -/
theorem exists_packageIndex_eq_error {package : String} {modules : List ModuleId}
    {companions : List String}
    (twice : ¬((modules.map ModuleId.name).Nodup ∧ companions.Nodup)) :
    ∃ repeated, (env.packageIndex package modules companions).outcome =
      .error (.duplicate repeated) := by
  have children := Emission.outcome_mapM_of_ok (env.outcome_moduleChild (packagePath package))
    (modules.map ModuleId.name)
  simp only [packageIndex, Emission.outcome_bind, Emission.outcome_ofExcept, children]
  by_cases once : (modules.map ModuleId.name).Nodup
  · obtain ⟨repeated, refused⟩ := exists_distinct_eq_error "file" package
      fun companionsOnce => twice ⟨once, companionsOnce⟩
    have accepted : distinct "module" package (modules.map ModuleId.name) = .ok () :=
      distinct_eq_ok_iff.mpr once
    rw [accepted, refused]
    exact ⟨repeated, rfl⟩
  · obtain ⟨repeated, refused⟩ := exists_distinct_eq_error "module" package once
    rw [refused]
    exact ⟨repeated, rfl⟩

/-- A project's index is refused when a package's name occurs twice. -/
theorem exists_projectIndex_eq_error {packages : List String} (twice : ¬packages.Nodup) :
    ∃ repeated, (env.projectIndex packages).outcome = .error (.duplicate repeated) := by
  obtain ⟨repeated, refused⟩ := exists_distinct_eq_error "package" "" twice
  refine ⟨repeated, ?_⟩
  rw [projectIndex, Emission.outcome_bind, Emission.outcome_ofExcept, refused]
  rfl

/-- An index is refused when its children repeat. Otherwise its namespaces, which it imports and
exports alike, are distinct exactly when no two children meet under the naming rules; those of a
project, when no two names of packages clash in an identifier that is not empty. -/
theorem index_namespaces_distinct_iff (env : Environment) :
    (∀ (package : String) (modules : List ModuleId) (companions : List String),
      DistinctNamespaces (env.packageIndex package modules companions).outcome
        ((modules.map ModuleId.name).Nodup ∧ companions.Nodup)
        ((Entry.all modules companions).Pairwise fun a b =>
          ¬(Entry.Meet env.settings.naming a b ∨ Entry.Meet env.settings.naming b a))) ∧
    ∀ packages : List String,
      DistinctNamespaces (env.projectIndex packages).outcome packages.Nodup
        (∀ a ∈ packages, ∀ b ∈ packages, env.settings.naming.Clash a b →
          env.settings.naming.identifier a = "") := by
  constructor
  · intro package modules companions
    refine ⟨env.exists_packageIndex_eq_error, fun once => ?_⟩
    refine ⟨_, env.packageIndex_eq_ok_iff.mpr ⟨once.1, once.2, rfl⟩,
      env.exportedNamespaces_packageScript modules companions, ?_⟩
    rw [importedNamespaces_packageScript, nodup_boundNames_iff]
  · intro packages
    refine ⟨env.exists_projectIndex_eq_error, fun once => ?_⟩
    refine ⟨_, env.projectIndex_eq_ok_iff.mpr ⟨once, rfl⟩,
      env.exportedNamespaces_projectScript packages, ?_⟩
    rw [importedNamespaces_projectScript, nodup_identifiers_iff once]

/-- A package with the name of a reserved word and its suffix shares a namespace with the word. -/
example : (({} : Environment).projectIndex ["new", "new__"]).outcome.map Script.importedNamespaces =
    .ok ["new__", "new__"] := by
  decide

end Environment

end MoveBindings
