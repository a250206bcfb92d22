import MoveBindings.Proofs.Emission.AliasSources
import MoveBindings.Proofs.Emission.DeclaredFields
import MoveBindings.Proofs.Emission.Repeats
import MoveBindings.Proofs.Emission.Runs
import MoveBindings.Proofs.Manifest

/-!
# When the alias file of a module can be made

A module that a manifest describes is in order when each of its container fields
has two type parameters and no two of them have one alias. Otherwise the first
container field without two parameters is reported, and when there is none, the
first alias that repeats. Nothing else can go wrong: all types of keys and
values are known, and the name of every container can be taken apart.
-/

namespace MoveBindings

open TypeScript

/-- The name of a field's alias. -/
def Member.aliasName (rules : NamingRules) (member : Member) : String :=
  rules.identifier member.struct.name ++ "$" ++ rules.identifier member.field.name

namespace Module

/-- The names of the aliases of a module's container fields. -/
def aliasNames (settings : Settings) (module : Module) : List String :=
  (module.containerMembers settings).map (Member.aliasName settings.naming)

/-- The container fields of a module have two type parameters each and different aliases. -/
structure IsSound (settings : Settings) (module : Module) : Prop where
  shaped : ∀ member ∈ module.containerMembers settings, member.HasShape
  aliasesOnce : (module.aliasNames settings).Nodup

instance (settings : Settings) (module : Module) : Decidable (module.IsSound settings) :=
  decidable_of_iff
    ((∀ member ∈ module.containerMembers settings, member.HasShape) ∧
      (module.aliasNames settings).Nodup)
    ⟨fun h => ⟨h.1, h.2⟩, fun h => ⟨h.shaped, h.aliasesOnce⟩⟩

/-- What is wrong with a module of a package first, and how it is reported. -/
inductive Fault (settings : Settings) (package : String) (module : Module) : Failure → Prop where
  | misshapen {before after : List Member} {member : Member} {container : Container}
      (split : module.containerMembers settings = before ++ member :: after)
      (sound : ∀ earlier ∈ before, earlier.HasShape) (odd : ¬member.HasShape)
      (claimed : container.claims settings member.field = true) :
      Fault settings package module
        (.shape (member.mismatch module.id (container.configuredName settings)))
  | aliasTwice {name : String}
      (shaped : ∀ member ∈ module.containerMembers settings, member.HasShape)
      (repeated : FirstRepeated (module.aliasNames settings) name) :
      Fault settings package module
        (.duplicate ⟨"type alias", name, AliasFile.path package module.id⟩)

/-- A module with a fault is not sound. -/
theorem Fault.not_isSound {settings : Settings} {package : String} {module : Module}
    {failure : Failure} (fault : module.Fault settings package failure) :
    ¬module.IsSound settings := by
  intro sound
  cases fault with
  | misshapen split _ odd _ => exact odd (sound.shaped _ (by simp [split]))
  | aliasTwice _ repeated => exact repeated.not_nodup sound.aliasesOnce

end Module

namespace Environment

open IndexFile

variable {env : Environment} {path : String} {field : ContainerField}
  {fields : List ContainerField}

/-! ## Aliases of fields with known types -/

theorem outcome_aliasType {tag : Tag} (known : tag.isKnown = true) (location : String) :
    (env.aliasType field tag location).outcome = .ok (typeName env.modules tag) := by
  simp only [aliasType, Tag.text?, known, if_true]
  split <;> rfl

theorem outcome_fieldAlias {taken : List String} (key : field.key.isKnown = true)
    (value : field.value.isKnown = true) :
    (env.fieldAlias path taken field).outcome =
      if env.aliasName field ∈ taken then
        .error (.duplicate ⟨"type alias", env.aliasName field, path⟩)
      else .ok (env.aliasOf field) := by
  rw [fieldAlias, Emission.outcome_bind, outcome_aliasIdentifier, ok_bind]
  split
  · rfl
  · rw [Emission.outcome_bind, outcome_aliasType key, ok_bind, Emission.outcome_bind,
      outcome_aliasType value, ok_bind]
    rfl

/-- Aliases are made one by one until a name repeats. -/
theorem outcome_fieldAliases {taken : List String}
    (known : ∀ field ∈ fields, field.key.isKnown = true ∧ field.value.isKnown = true) :
    (env.fieldAliases path taken fields).outcome =
      match firstRepeated? taken (fields.map env.aliasName) with
      | some name => .error (.duplicate ⟨"type alias", name, path⟩)
      | none => .ok (fields.map env.aliasOf) := by
  induction fields generalizing taken with
  | nil => rfl
  | cons field rest ih =>
    obtain ⟨key, value⟩ := known field List.mem_cons_self
    have others := fun other member => known other (List.mem_cons_of_mem field member)
    rw [fieldAliases, Emission.outcome_bind, outcome_fieldAlias key value, List.map_cons,
      firstRepeated?]
    split
    · rfl
    · have named : (env.aliasOf field).name = env.aliasName field := rfl
      rw [ok_bind, Emission.outcome_bind, named, ih others]
      split <;> rfl

/-- The imports of an alias file can be made when the file of each class is found. -/
theorem outcome_aliasSource
    (known : ∀ field ∈ fields, field.key.isKnown = true ∧ field.value.isKnown = true)
    {links : List Link} (classes : env.classLinks path fields = .ok links) :
    (∀ failure, (env.aliasSource path fields).outcome = .error failure ↔
      ∃ name, FirstRepeated (fields.map env.aliasName) name ∧
        failure = .duplicate ⟨"type alias", name, path⟩) ∧
    ((∃ source, (env.aliasSource path fields).outcome = .ok source) ↔
      (fields.map env.aliasName).Nodup) := by
  have unseen : (fields.map env.aliasName).Nodup ↔
      firstRepeated? [] (fields.map env.aliasName) = none := by
    rw [firstRepeated?_eq_none_iff]
    simp
  have modules := env.mapM_bindingsLink_modulesOf path (AliasFile.tags fields)
  have outcome : (env.aliasSource path fields).outcome =
      match firstRepeated? [] (fields.map env.aliasName) with
      | some name => .error (.duplicate ⟨"type alias", name, path⟩)
      | none => .ok ⟨(env.libraryLinks ((AliasFile.tags fields).flatMap libraryTypes) ++ links ++
          env.moduleLinks path (AliasFile.tags fields)).map .importFrom ++
          (fields.map env.aliasOf).map .typeAlias⟩ := by
    rw [aliasSource, Emission.outcome_bind, outcome_fieldAliases known]
    split
    · rfl
    · rw [ok_bind]
      dsimp only
      rw [classes, modules]
      rfl
  simp only [← firstRepeated?_nil_eq_some_iff, unseen, outcome]
  cases firstRepeated? [] (fields.map env.aliasName) with
  | none => simp
  | some name => simp [eq_comm]

/-! ## Modules that manifests describe -/

variable {module : Module}

/-- The types of keys and values of a described module are well formed, and the file of each class
is found. -/
theorem of_foundAs (known : ∃ modules, env.known = some modules) (described : module.Described)
    {member : Member} (declared : member ∈ module.containerMembers env.settings)
    (found : member.FoundAs env.settings field) :
    (field.key.isKnown = true ∧ field.value.isKnown = true) ∧
      (∃ stem, env.classStem field.qualifiedName = .ok stem) ∧
      env.aliasName field = member.aliasName env.settings.naming := by
  obtain ⟨inStructs, inFields⟩ := Module.mem_members_iff.mp (List.mem_filter.mp declared).1
  obtain ⟨name, params, shape, named⟩ := Container.claims_eq_true_iff.mp found.claimed
  have formed := described.typed _ inStructs _ inFields
  have params_eq := found.params
  rw [shape] at formed params_eq
  cases params_eq
  refine ⟨?_, ?_, ?_⟩
  · cases formed with
    | struct _ _ _ _ _ formed =>
      exact ⟨(formed _ (.head _)).isKnown, (formed _ (.tail _ (.head _))).isKnown⟩
  · obtain ⟨modules, known⟩ := known
    rw [found.qualifiedName, ← named]
    simp [classStem, containerName, formed.read_name, bindingsPath, known, ok_bind, pure,
      Except.pure]
  · rw [aliasName, found.owner, found.fieldName, if_neg (described.named _ inStructs)]
    rfl

/-- Once the container fields of a described module are found, only its aliases can go wrong. -/
theorem outcome_aliasSource_of_found (known : ∃ modules, env.known = some modules)
    (described : module.Described)
    (found : List.Forall₂ (Member.FoundAs env.settings)
      (module.containerMembers env.settings) fields) :
    (∀ failure, (env.aliasSource path fields).outcome = .error failure ↔
      ∃ name, FirstRepeated (module.aliasNames env.settings) name ∧
        failure = .duplicate ⟨"type alias", name, path⟩) ∧
    ((∃ source, (env.aliasSource path fields).outcome = .ok source) ↔
      (module.aliasNames env.settings).Nodup) := by
  have each := related_mem found
  have names : fields.map env.aliasName = module.aliasNames env.settings :=
    map_eq_map (each.imp fun _ _ step => (of_foundAs known described step.1 step.2).2.2)
  have types : ∀ field ∈ fields, field.key.isKnown = true ∧ field.value.isKnown = true := by
    intro field member
    obtain ⟨_, _, declared, foundAs⟩ := exists_element each member
    exact (of_foundAs known described declared foundAs).1
  have links : ∃ links, env.classLinks path fields = .ok links := by
    have stems : ∃ stems, fields.mapM (fun field => do
        return (← env.classStem field.qualifiedName, field.container)) = .ok stems := by
      refine exists_mapM_eq_ok_iff.mpr fun field member => ?_
      obtain ⟨_, _, declared, foundAs⟩ := exists_element each member
      obtain ⟨stem, located⟩ := (of_foundAs known described declared foundAs).2.1
      exact ⟨(stem, field.container), by rw [located]; rfl⟩
    obtain ⟨stems, located⟩ := stems
    exact ⟨_, by rw [classLinks, located, ok_bind]; rfl⟩
  obtain ⟨links, classes⟩ := links
  rw [← names]
  exact outcome_aliasSource types classes

theorem hasShape_of_found
    (found : List.Forall₂ (Member.FoundAs env.settings)
      (module.containerMembers env.settings) fields) :
    ∀ member ∈ module.containerMembers env.settings, member.HasShape := by
  intro member declared
  obtain ⟨field, _, foundAs⟩ := exists_result found declared
  rw [Member.HasShape, foundAs.params]
  rfl

/-- No alias file is made when container fields are not found, or when there are some and the file
cannot be made. -/
theorem outcome_moduleAliases_eq_error_iff {package : String} {failure : Failure} :
    (env.moduleAliases package module).outcome = .error failure ↔
      env.moduleContainerFields module = .error failure ∨
        ∃ fields, env.moduleContainerFields module = .ok fields ∧ fields ≠ [] ∧
          (env.aliasSource (AliasFile.path package module.id) fields).outcome =
            .error failure := by
  rw [moduleAliases, Emission.outcome_bind_eq_error_iff, Emission.outcome_ofExcept]
  refine or_congr_right (exists_congr fun fields => and_congr_right fun _ => ?_)
  cases fields with
  | nil => simp
  | cons field rest =>
    simp [aliasFile, map_eq_error_iff]

/-- What is reported for a described module is what is wrong with it first. -/
theorem moduleAliases_eq_error_iff_fault (known : ∃ modules, env.known = some modules)
    (different : env.settings.tableName ≠ env.settings.iterableTableName)
    (described : module.Described) {package : String} {failure : Failure} :
    (env.moduleAliases package module).outcome = .error failure ↔
      module.Fault env.settings package failure := by
  rw [outcome_moduleAliases_eq_error_iff]
  constructor
  · rintro (mismatch | ⟨fields, search, _, fails⟩)
    · obtain ⟨before, member, after, split, sound, odd, container, claimed, rfl⟩ :=
        (moduleContainerFields_eq_error_iff different).mp mismatch
      exact .misshapen split sound odd claimed
    · have found := (moduleContainerFields_eq_ok_iff different).mp search
      obtain ⟨name, repeated, rfl⟩ :=
        ((outcome_aliasSource_of_found known described found).1 failure).mp fails
      exact .aliasTwice (hasShape_of_found found) repeated
  · intro fault
    cases fault with
    | misshapen split sound odd claimed =>
      exact .inl ((moduleContainerFields_eq_error_iff different).mpr
        ⟨_, _, _, split, sound, odd, _, claimed, rfl⟩)
    | aliasTwice shaped repeated =>
      cases search : env.moduleContainerFields module with
      | error mismatch =>
        obtain ⟨_, member, _, split, _, odd, _⟩ :=
          (moduleContainerFields_eq_error_iff different).mp search
        exact absurd (shaped member (by simp [split])) odd
      | ok fields =>
        have found := (moduleContainerFields_eq_ok_iff different).mp search
        refine .inr ⟨fields, rfl, ?_, ?_⟩
        · rintro rfl
          have none := moduleContainerFields_eq_ok_nil_iff.mp search
          exact repeated.not_nodup (by simp [Module.aliasNames, none])
        · exact ((outcome_aliasSource_of_found known described found).1 _).mpr
            ⟨_, repeated, rfl⟩

/-- The alias file of a described module can be made, if it needs one, when the module is sound. -/
theorem exists_moduleAliases_iff (known : ∃ modules, env.known = some modules)
    (different : env.settings.tableName ≠ env.settings.iterableTableName)
    (described : module.Described) {package : String} :
    (∃ result, (env.moduleAliases package module).outcome = .ok result) ↔
      module.IsSound env.settings := by
  constructor
  · rintro ⟨result, made⟩
    cases outcome_moduleAliases_eq_ok_iff.mp made with
    | none search =>
      have none := moduleContainerFields_eq_ok_nil_iff.mp search
      exact ⟨by simp [none], by simp [Module.aliasNames, none]⟩
    | some search _ source =>
      have found := (moduleContainerFields_eq_ok_iff different).mp search
      exact ⟨hasShape_of_found found,
        (outcome_aliasSource_of_found known described found).2.mp ⟨_, source⟩⟩
  · intro sound
    cases outcome : (env.moduleAliases package module).outcome with
    | ok result => exact ⟨result, rfl⟩
    | error failure =>
      have fault := (moduleAliases_eq_error_iff_fault known different described).mp outcome
      exact absurd sound fault.not_isSound

end Environment

end MoveBindings
