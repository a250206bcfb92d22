import MoveBindings.Proofs.Emission.ContainerFields
import MoveBindings.Proofs.FirstFailure
import MoveBindings.Proofs.Lists

/-!
# Container fields as they are declared

The fields of a module are listed struct by struct. When the two containers have
different names, a field belongs to one container at most, so the container
fields that are found are the declared ones, one by one and in order. They are
found when each has two type parameters, and otherwise the first that has not is
reported.
-/

namespace MoveBindings

/-- The type parameters of a struct type. -/
def Tag.params : Tag → List Tag
  | .struct _ params => params
  | _ => []

/-- A field of a module with the struct that declares it. -/
structure Member where
  struct : Struct
  field : Field

namespace Member

/-- Whether a field belongs to some container. -/
def isContainer (settings : Settings) (member : Member) : Bool :=
  Container.all.any fun container => container.claims settings member.field

/-- Whether the type of a field has two parameters, for keys and for values. -/
def HasShape (member : Member) : Prop := member.field.type.params.length = 2

instance (member : Member) : Decidable member.HasShape :=
  inferInstanceAs (Decidable (_ = _))

/-- How a field is reported whose type should have had two parameters. -/
def mismatch (member : Member) (module : ModuleId) (expected : String) : ShapeMismatch where
  fieldName := member.field.name
  expectedName := expected
  actualName := some expected
  actualParams := some member.field.type.params.length
  declaredIn := ContainerField.declaredIn (some module) member.struct.name

/-- A container field that is found for a declared one: with its name and struct, the types of its
parameters, and the container that its type names. -/
structure FoundAs (settings : Settings) (member : Member) (found : ContainerField) : Prop where
  claimed : found.container.claims settings member.field = true
  fieldName : found.fieldName = member.field.name
  params : member.field.type.params = [found.key, found.value]
  qualifiedName : found.qualifiedName = found.container.configuredName settings
  owner : found.owner = member.struct.name

end Member

namespace Module

/-- The fields of a module, struct by struct. -/
def members (module : Module) : List Member :=
  module.structs.flatMap fun struct => struct.fields.map (Member.mk struct)

/-- The fields of a module that belong to containers, in the order of their declaration. -/
def containerMembers (settings : Settings) (module : Module) : List Member :=
  module.members.filter (Member.isContainer settings)

/-- Whether a module has container fields. -/
def hasContainerFields (settings : Settings) (module : Module) : Bool :=
  !(module.containerMembers settings).isEmpty

/-- The fields of a module, each with every container that claims it. -/
def claims (settings : Settings) (module : Module) : List (Container × Member) :=
  module.members.flatMap fun member =>
    (Container.claiming settings member.field).map fun container => (container, member)

theorem hasContainerFields_eq_true_iff {settings : Settings} {module : Module} :
    module.hasContainerFields settings = true ↔ module.containerMembers settings ≠ [] := by
  simp [hasContainerFields]

theorem mem_members_iff {module : Module} {member : Member} :
    member ∈ module.members ↔
      member.struct ∈ module.structs ∧ member.field ∈ member.struct.fields := by
  simp only [members, List.mem_flatMap, List.mem_map]
  constructor
  · rintro ⟨struct, inStructs, field, inFields, rfl⟩
    exact ⟨inStructs, inFields⟩
  · rintro ⟨inStructs, inFields⟩
    exact ⟨member.struct, inStructs, member.field, inFields, rfl⟩

theorem mem_claims_iff {settings : Settings} {module : Module} {claim : Container × Member} :
    claim ∈ module.claims settings ↔
      claim.2 ∈ module.members ∧ claim.1.claims settings claim.2.field = true := by
  simp only [claims, List.mem_flatMap, List.mem_map, Container.mem_claiming_iff]
  constructor
  · rintro ⟨member, inModule, container, claimed, rfl⟩
    exact ⟨inModule, claimed⟩
  · rintro ⟨inModule, claimed⟩
    exact ⟨claim.2, inModule, claim.1, claimed, rfl⟩

/-- A module has container fields when some container claims a field of it. -/
theorem containerMembers_eq_nil_iff {settings : Settings} {module : Module} :
    module.containerMembers settings = [] ↔ Container.claimingModule settings module = [] := by
  rw [containerMembers, List.filter_eq_nil_iff, List.eq_nil_iff_forall_not_mem]
  constructor
  · intro none container claims
    obtain ⟨struct, inStructs, field, inFields, claims⟩ :=
      Container.mem_claimingModule_iff.mp claims
    refine none ⟨struct, field⟩ (mem_members_iff.mpr ⟨inStructs, inFields⟩) ?_
    exact List.any_eq_true.mpr ⟨container, Container.mem_all container, claims⟩
  · intro none member inModule some
    obtain ⟨container, _, claims⟩ := List.any_eq_true.mp some
    obtain ⟨inStructs, inFields⟩ := mem_members_iff.mp inModule
    exact none container
      (Container.mem_claimingModule_iff.mpr ⟨_, inStructs, _, inFields, claims⟩)

end Module

/-! ## One claim -/

/-- Containers with different names never claim one field. -/
theorem Container.claims_unique {settings : Settings} {container other : Container} {field : Field}
    (different : settings.tableName ≠ settings.iterableTableName)
    (claimed : container.claims settings field = true)
    (again : other.claims settings field = true) : container = other := by
  obtain ⟨name, params, shape, named⟩ := Container.claims_eq_true_iff.mp claimed
  obtain ⟨_, _, sameShape, namedAgain⟩ := Container.claims_eq_true_iff.mp again
  cases shape.symm.trans sameShape
  have same := named.symm.trans namedAgain
  cases container <;> cases other
  · rfl
  · exact absurd same different
  · exact absurd same.symm different
  · rfl

theorem Container.claiming_eq_singleton {settings : Settings} {container : Container}
    {field : Field} (different : settings.tableName ≠ settings.iterableTableName)
    (claimed : container.claims settings field = true) :
    Container.claiming settings field = [container] := by
  have only : ∀ other ∈ Container.all,
      other.claims settings field = (other == container) := by
    intro other _
    rw [Bool.eq_iff_iff, beq_iff_eq]
    constructor
    · exact fun again => Container.claims_unique different again claimed
    · rintro rfl
      exact claimed
  rw [Container.claiming, List.filter_congr only]
  cases container <;> rfl

/-- With different names every container field has one claim. -/
theorem Module.map_claims {settings : Settings} {module : Module}
    (different : settings.tableName ≠ settings.iterableTableName) :
    (module.claims settings).map Prod.snd = module.containerMembers settings := by
  have one (member : Member) : ((Container.claiming settings member.field).map
      fun container => (container, member)).map Prod.snd =
        if member.isContainer settings = true then [member] else [] := by
    by_cases container : member.isContainer settings = true
    · obtain ⟨claiming, _, claimed⟩ := List.any_eq_true.mp container
      rw [if_pos container, Container.claiming_eq_singleton different claimed]
      rfl
    · have none : Container.claiming settings member.field = [] := by
        rw [Container.claiming, List.filter_eq_nil_iff]
        exact fun other tried claimed => container (List.any_eq_true.mpr ⟨other, tried, claimed⟩)
      rw [if_neg container, none]
      rfl
  rw [claims, List.map_flatMap, List.flatMap_congr fun member _ => one member]
  exact (flatMap_if (Member.isContainer settings) (fun member => member) _).trans (List.map_id _)

namespace Environment

variable {env : Environment} {container : Container} {member : Member} {module : ModuleId}

/-- A claimed field with two type parameters is found, and any other is reported. -/
theorem containerField_of_claims (claimed : container.claims env.settings member.field = true) :
    env.containerField container member.field member.struct.name (some module) =
      match member.field.type.params with
      | [key, value] =>
        .ok ⟨container, member.field.name, key, value, container.configuredName env.settings,
          member.struct.name⟩
      | _ => .error (.shape (member.mismatch module (container.configuredName env.settings))) := by
  obtain ⟨name, params, shape, named⟩ := Container.claims_eq_true_iff.mp claimed
  have nonempty := Container.configuredName_ne_empty claimed
  simp only [containerField, ContainerField.ofField, ContainerField.keyAndValue, shape, named,
    nonempty, if_false, ne_eq, not_true_eq_false, Tag.params, Member.mismatch]
  rcases params with _ | ⟨key, _ | ⟨value, _ | ⟨third, others⟩⟩⟩ <;> rfl

theorem containerField_eq_ok_iff (claimed : container.claims env.settings member.field = true)
    {found : ContainerField} :
    env.containerField container member.field member.struct.name (some module) = .ok found ↔
      found.container = container ∧ member.FoundAs env.settings found := by
  rw [containerField_of_claims claimed]
  constructor
  · intro h
    split at h
    · next key value params =>
      cases h
      exact ⟨rfl, claimed, rfl, params, rfl, rfl⟩
    · cases h
  · rintro ⟨rfl, same⟩
    simp only [same.params, ← same.fieldName, ← same.qualifiedName, ← same.owner]

theorem containerField_eq_error_iff (claimed : container.claims env.settings member.field = true)
    {failure : Failure} :
    env.containerField container member.field member.struct.name (some module) = .error failure ↔
      ¬member.HasShape ∧
        failure = .shape (member.mismatch module (container.configuredName env.settings)) := by
  rw [containerField_of_claims claimed, Member.HasShape]
  split
  · next key value params => simp [params]
  · next odd =>
    have shapeless : member.field.type.params.length ≠ 2 := by
      intro two
      obtain ⟨key, value, params⟩ := List.length_eq_two.mp two
      exact odd key value params
    simp [shapeless, eq_comm]

/-! ## All claims of a module -/

/-- The container fields of a module are found claim by claim. -/
theorem moduleContainerFields_eq (env : Environment) (module : Module) :
    env.moduleContainerFields module = (module.claims env.settings).mapM fun claim =>
      env.containerField claim.1 claim.2.field claim.2.struct.name (some module.id) := by
  have nested : module.claims env.settings = module.structs.flatMap fun struct =>
      struct.fields.flatMap fun field =>
        (Container.claiming env.settings field).map
          fun container => (container, ⟨struct, field⟩) := by
    simp only [Module.claims, Module.members, List.flatMap_assoc, List.flatMap_map]
  simp only [nested, mapM_flatMap, List.mapM_map]
  rfl

/-- Without container fields nothing is found. -/
theorem moduleContainerFields_eq_ok_nil_iff {module : Module} :
    env.moduleContainerFields module = .ok [] ↔ module.containerMembers env.settings = [] := by
  rw [Module.containerMembers_eq_nil_iff]
  constructor
  · intro found
    rw [← containers_of_moduleContainerFields found, List.map_nil]
  · intro none
    have claims : module.claims env.settings = [] := by
      rw [List.eq_nil_iff_forall_not_mem]
      intro claim inClaims
      obtain ⟨inModule, claimed⟩ := Module.mem_claims_iff.mp inClaims
      obtain ⟨inStructs, inFields⟩ := Module.mem_members_iff.mp inModule
      have claims := Container.mem_claimingModule_iff.mpr ⟨_, inStructs, _, inFields, claimed⟩
      rw [none] at claims
      cases claims
    rw [moduleContainerFields_eq, claims]
    rfl

variable {fields : List ContainerField} {failure : Failure} {module : Module}

/-- The container fields of a module are found when each has its two type parameters: one for each
that is declared, in order. -/
theorem moduleContainerFields_eq_ok_iff
    (different : env.settings.tableName ≠ env.settings.iterableTableName) :
    env.moduleContainerFields module = .ok fields ↔
      List.Forall₂ (Member.FoundAs env.settings) (module.containerMembers env.settings) fields := by
  have claimed : ∀ claim ∈ module.claims env.settings,
      claim.1.claims env.settings claim.2.field = true :=
    fun claim inClaims => (Module.mem_claims_iff.mp inClaims).2
  have step (claim : Container × Member) (found : ContainerField) :
      (claim.1.claims env.settings claim.2.field = true ∧
        env.containerField claim.1 claim.2.field claim.2.struct.name (some module.id) =
          .ok found) ↔
      claim.1.claims env.settings claim.2.field = true ∧
        claim.2.FoundAs env.settings found := by
    refine and_congr_right fun claims => ?_
    rw [containerField_eq_ok_iff claims]
    exact and_iff_right_of_imp fun same => Container.claims_unique different same.claimed claims
  rw [moduleContainerFields_eq, mapM_eq_ok_iff, ← Module.map_claims different,
    List.forall₂_map_left_iff, ← and_iff_right claimed (b := List.Forall₂ _ _ _),
    ← List.forall₂_and_left]
  simp only [step, List.forall₂_and_left]
  exact and_iff_right claimed

/-- Otherwise the first container field that has not two type parameters is reported. -/
theorem moduleContainerFields_eq_error_iff
    (different : env.settings.tableName ≠ env.settings.iterableTableName) :
    env.moduleContainerFields module = .error failure ↔
      ∃ before member after,
        module.containerMembers env.settings = before ++ member :: after ∧
        (∀ earlier ∈ before, earlier.HasShape) ∧ ¬member.HasShape ∧
        ∃ container : Container, container.claims env.settings member.field = true ∧
          failure = .shape (member.mismatch module.id (container.configuredName env.settings)) := by
  have claimed : ∀ claim ∈ module.claims env.settings,
      claim.1.claims env.settings claim.2.field = true :=
    fun claim inClaims => (Module.mem_claims_iff.mp inClaims).2
  have shaped {claim : Container × Member} (inClaims : claim ∈ module.claims env.settings) :
      (∃ found, env.containerField claim.1 claim.2.field claim.2.struct.name (some module.id) =
        .ok found) ↔ claim.2.HasShape := by
    rw [containerField_of_claims (claimed claim inClaims), Member.HasShape, List.length_eq_two]
    split
    · next key value params => simp [params]
    · next odd => simpa using odd
  rw [moduleContainerFields_eq, mapM_eq_error_iff, ← Module.map_claims different]
  constructor
  · rintro ⟨before, claim, after, split, sound, fails⟩
    have inClaims : claim ∈ module.claims env.settings := by simp [split]
    obtain ⟨shapeless, rfl⟩ := (containerField_eq_error_iff (claimed claim inClaims)).mp fails
    refine ⟨before.map Prod.snd, claim.2, after.map Prod.snd, by simp [split], ?_, shapeless,
      claim.1, claimed claim inClaims, rfl⟩
    intro earlier inBefore
    obtain ⟨other, found, rfl⟩ := List.mem_map.mp inBefore
    exact (shaped (by simp [split, found])).mp (sound other found)
  · rintro ⟨before, member, after, split, sound, shapeless, container, claims, rfl⟩
    obtain ⟨first, rest, parts, rfl, tail⟩ := List.map_eq_append_iff.mp split
    obtain ⟨claim, others, rfl, rfl, rfl⟩ := List.map_eq_cons_iff.mp tail
    have inClaims : claim ∈ module.claims env.settings := by simp [parts]
    obtain rfl := Container.claims_unique different claims (claimed claim inClaims)
    refine ⟨first, claim, others, parts, ?_, ?_⟩
    · intro earlier inFirst
      exact (shaped (by simp [parts, inFirst])).mpr (sound earlier.2 (List.mem_map_of_mem inFirst))
    · exact (containerField_eq_error_iff claims).mpr ⟨shapeless, rfl⟩

end Environment

end MoveBindings
