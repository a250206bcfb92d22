import Mathlib.Data.List.Nodup
import MoveBindings.Proofs.Emission.Aliases

/-!
# Alias files in closed form

When an alias file can be made, the names of its aliases are different and every
alias is a function of its field. The file imports library names, the classes of
its fields from the files where these lie, and each module that a type refers to
under the namespace of the module.
-/

namespace MoveBindings

open TypeScript

namespace Environment

variable {env : Environment} {path : String} {field : ContainerField}
  {fields : List ContainerField}

/-! ## Aliases -/

/-- The name of a field's alias: the identifier of the field, after the one of its struct if it has
a struct. -/
def aliasName (env : Environment) (field : ContainerField) : String :=
  let name := env.settings.naming.identifier field.fieldName
  if field.owner = "" then name else env.settings.naming.identifier field.owner ++ "$" ++ name

/-- The alias of a field. -/
def aliasOf (env : Environment) (field : ContainerField) : TypeAlias where
  name := env.aliasName field
  value := field.container.className ++ "<" ++ typeName env.modules field.key ++ ", " ++
    typeName env.modules field.value ++ ">"

theorem outcome_aliasIdentifier (env : Environment) (field : ContainerField) (location : String) :
    (env.aliasIdentifier field location).outcome = .ok (env.aliasName field) := by
  by_cases ownerless : field.owner = ""
  · simp [aliasIdentifier, aliasName, outcome_identifier, ownerless]
  · simp [aliasIdentifier, aliasName, Emission.outcome_bind, outcome_identifier, ok_bind, ownerless]

/-- A type that is found is the type of the tag, whether it is noted or not. -/
theorem eq_typeName_of_aliasType {tag : Tag} {location type : String}
    (h : (env.aliasType field tag location).outcome = .ok type) :
    type = typeName env.modules tag := by
  unfold aliasType at h
  dsimp only at h
  split at h
  · split at h
    · cases h
    · cases h
      rfl
  · cases h
    rfl

/-- An alias that is made is the one of the field, and its name was not taken. -/
theorem of_fieldAlias {taken : List String} {declared : TypeAlias}
    (h : (env.fieldAlias path taken field).outcome = .ok declared) :
    declared = env.aliasOf field ∧ env.aliasName field ∉ taken := by
  obtain ⟨name, named, h⟩ := Emission.outcome_bind_eq_ok_iff.mp h
  cases (env.outcome_aliasIdentifier field path).symm.trans named
  split at h
  · cases h
  · next free =>
    obtain ⟨key, keyMade, h⟩ := Emission.outcome_bind_eq_ok_iff.mp h
    obtain ⟨value, valueMade, h⟩ := Emission.outcome_bind_eq_ok_iff.mp h
    cases eq_typeName_of_aliasType keyMade
    cases eq_typeName_of_aliasType valueMade
    cases h
    exact ⟨rfl, free⟩

/-- Aliases that are made are those of the fields, and their names are different and not taken. -/
theorem of_fieldAliases {taken : List String} {aliases : List TypeAlias}
    (h : (env.fieldAliases path taken fields).outcome = .ok aliases) :
    aliases = fields.map env.aliasOf ∧ (fields.map env.aliasName).Nodup ∧
      ∀ name ∈ fields.map env.aliasName, name ∉ taken := by
  induction fields generalizing taken aliases with
  | nil =>
    cases h
    exact ⟨rfl, List.nodup_nil, by simp⟩
  | cons field rest ih =>
    obtain ⟨first, firstMade, h⟩ := Emission.outcome_bind_eq_ok_iff.mp h
    obtain ⟨others, othersMade, h⟩ := Emission.outcome_bind_eq_ok_iff.mp h
    cases h
    obtain ⟨rfl, free⟩ := of_fieldAlias firstMade
    obtain ⟨rfl, distinct, fresh⟩ := ih othersMade
    refine ⟨rfl, List.nodup_cons.mpr ⟨?_, distinct⟩, ?_⟩
    · exact fun again => fresh _ again (List.mem_cons_self ..)
    · intro name member
      rcases List.mem_cons.mp member with rfl | later
      · exact free
      · exact fun taken => fresh name later (List.mem_cons_of_mem _ taken)

/-! ## Imports -/

/-- The file and the container of each field's class. -/
def ClassStems (env : Environment) (fields : List ContainerField)
    (stems : List (String × Container)) : Prop :=
  List.Forall₂ (fun field entry => env.classStem field.qualifiedName = .ok entry.1 ∧
    entry.2 = field.container) fields stems

/-- The imports of classes from the files where they lie. -/
def stemLinks (path : String) (stems : List (String × Container)) : List Link :=
  (Text.sorted (stems.map Prod.fst)).map fun stem =>
    ⟨importSource path stem, .names (AliasFile.classNames stems stem)⟩

/-- The imports of classes can be made when the files of all classes are found. -/
theorem exists_stems_of_classLinks {links : List Link}
    (h : env.classLinks path fields = .ok links) :
    ∃ stems, env.ClassStems fields stems ∧ links = stemLinks path stems := by
  obtain ⟨stems, found, h⟩ := exists_of_bind_eq_ok h
  cases h
  refine ⟨stems, (mapM_eq_ok_iff.mp found).imp ?_, rfl⟩
  intro field entry step
  obtain ⟨stem, located, step⟩ := exists_of_bind_eq_ok step
  cases step
  exact ⟨located, rfl⟩

/-- A known module has a path in its package. -/
theorem bindingsPath_of_contains {id : ModuleId} (known : env.modules.contains id = true) :
    env.bindingsPath id = .ok (env.bindingsAt id) := by
  cases listed : env.known with
  | none =>
    rw [modules, listed] at known
    cases known
  | some modules => exact bindingsPath_of_known listed id

/-- All modules that types refer to can be imported. -/
theorem mapM_bindingsLink_modulesOf (env : Environment) (path : String) (tags : List Tag) :
    ((env.modulesOf tags).mapM fun id => env.bindingsLink path id) =
      .ok (env.moduleLinks path tags) := by
  rw [mapM_eq_ok_iff, moduleLinks, List.forall₂_map_right_iff, List.forall₂_same]
  intro id member
  rw [bindingsLink, bindingsPath_of_contains (contains_of_mem_modulesOf member)]
  rfl

theorem modulesOf_nodup (env : Environment) (tags : List Tag) : (env.modulesOf tags).Nodup :=
  sortedSet_nodup ModuleId.less_isTotal ModuleId.less_isStrict _

/-! ## Files -/

/-- The file of the aliases of fields whose classes lie in the given files. -/
def aliasScript (env : Environment) (path : String) (fields : List ContainerField)
    (stems : List (String × Container)) : Script where
  nodes :=
    (env.libraryLinks ((AliasFile.tags fields).flatMap libraryTypes) ++ stemLinks path stems ++
        env.moduleLinks path (AliasFile.tags fields)).map .importFrom ++
      (fields.map env.aliasOf).map .typeAlias

/-- A file of aliases that is made has the aliases of its fields, under different names. -/
theorem of_aliasSource {script : Script} (h : (env.aliasSource path fields).outcome = .ok script) :
    (fields.map env.aliasName).Nodup ∧
      ∃ stems, env.ClassStems fields stems ∧ script = env.aliasScript path fields stems := by
  obtain ⟨aliases, aliasesMade, h⟩ := Emission.outcome_bind_eq_ok_iff.mp h
  obtain ⟨rfl, distinct, _⟩ := of_fieldAliases aliasesMade
  obtain ⟨classes, classesFound, h⟩ := Emission.outcome_bind_eq_ok_iff.mp h
  obtain ⟨stems, located, rfl⟩ := exists_stems_of_classLinks classesFound
  rw [mapM_bindingsLink_modulesOf] at h
  cases h
  exact ⟨distinct, stems, located, rfl⟩

theorem of_aliasFile {package : String} {module : ModuleId} {script : Script}
    (h : (env.aliasFile package module fields).outcome = .ok (path, script)) :
    path = AliasFile.path package module ∧ (fields.map env.aliasName).Nodup ∧
      ∃ stems, env.ClassStems fields stems ∧ script = env.aliasScript path fields stems := by
  obtain ⟨source, made, h⟩ := Emission.outcome_bind_eq_ok_iff.mp h
  cases h
  exact ⟨rfl, of_aliasSource made⟩

end Environment

end MoveBindings
