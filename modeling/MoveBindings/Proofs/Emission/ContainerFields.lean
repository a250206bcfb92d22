import MoveBindings.Emission.ContainerFields
import MoveBindings.Proofs.Outcomes

/-!
# Which container fields are found

A field is found once for each container that claims it, in the order of
structs, fields and containers. Every field that is found keeps the name of its
container.
-/

namespace MoveBindings

namespace Container

/-- The containers whose name a field's type has. -/
def claiming (settings : Settings) (field : Field) : List Container :=
  all.filter fun container => container.claims settings field

/-- The containers that the fields of a struct belong to, field by field. -/
def claimingStruct (settings : Settings) (struct : Struct) : List Container :=
  struct.fields.flatMap (claiming settings)

/-- The containers that the fields of a module belong to, field by field. -/
def claimingModule (settings : Settings) (module : Module) : List Container :=
  module.structs.flatMap (claimingStruct settings)

theorem className_injective : Function.Injective className := by
  intro first second same
  cases first <;> cases second <;> first | rfl | (revert same; decide)

theorem mem_all (container : Container) : container ∈ all := by
  cases container <;> decide

theorem mem_claiming_iff {settings : Settings} {field : Field} {container : Container} :
    container ∈ claiming settings field ↔ container.claims settings field = true := by
  simp [claiming, mem_all]

theorem mem_claimingModule_iff {settings : Settings} {module : Module} {container : Container} :
    container ∈ claimingModule settings module ↔
      ∃ struct ∈ module.structs, ∃ field ∈ struct.fields,
        container.claims settings field = true := by
  simp [claimingModule, claimingStruct, mem_claiming_iff]

/-- The type of a claimed field is a struct of the container's name. -/
theorem claims_eq_true_iff {container : Container} {settings : Settings} {field : Field} :
    container.claims settings field = true ↔
      ∃ name params, field.type = .struct name params ∧
        name.text = container.configuredName settings := by
  unfold Container.claims
  cases field.type <;> simp

/-- The name of a container that claims a field is the text of a struct's name. -/
theorem configuredName_ne_empty {container : Container} {settings : Settings}
    {field : Field} (claimed : container.claims settings field = true) :
    container.configuredName settings ≠ "" := by
  obtain ⟨name, params, _, named⟩ := claims_eq_true_iff.mp claimed
  rw [← named]
  simp [QualifiedName.text]

end Container

/-- A field of a container was made from a type of its name with two parameters. -/
theorem ContainerField.exists_shape_of_ofField {container : Container} {field : Field}
    {qualifiedName owner : String} {module : Option ModuleId} {result : ContainerField}
    (h : ofField container field qualifiedName owner module = .ok result) :
    ∃ name, field.type = .struct name [result.key, result.value] ∧
      result.qualifiedName = name.text ∧ result.container = container := by
  obtain ⟨⟨key, value⟩, parameters, built⟩ := bind_eq_ok_iff.mp h
  obtain ⟨name, shape, named⟩ := keyAndValue_eq_ok_iff.mp parameters
  cases built
  exact ⟨name, shape, named.symm, rfl⟩

namespace Environment

variable {env : Environment}

/-- A field that is found has the container it was looked for, and the container's name. -/
theorem of_containerField {container : Container} {field : Field} {owner : String}
    {module : Option ModuleId} {found : ContainerField}
    (h : env.containerField container field owner module = .ok found) :
    found.container = container ∧ (container.configuredName env.settings ≠ "" →
      found.qualifiedName = container.configuredName env.settings) := by
  unfold containerField at h
  split at h
  · next result shape =>
    cases h
    obtain ⟨⟨key, value⟩, _, built⟩ := exists_of_bind_eq_ok shape
    cases built
    refine ⟨rfl, fun named => ?_⟩
    simp [named]
  · cases h

/-- The containers of the fields found for one field are those that claim it. -/
theorem containers_of_asContainerFields {module : ModuleId} {struct : String} {field : Field}
    {found : List ContainerField} (h : env.asContainerFields module struct field = .ok found) :
    found.map ContainerField.container = Container.claiming env.settings field := by
  have each := mapM_eq_ok_iff.mp h
  rw [map_eq_map (f := id) (each.imp fun _ _ step => (of_containerField step).1)]
  exact List.map_id _

theorem containers_of_structContainerFields {module : ModuleId} {struct : Struct}
    {found : List ContainerField} (h : env.structContainerFields module struct = .ok found) :
    found.map ContainerField.container = Container.claimingStruct env.settings struct := by
  obtain ⟨pieces, each, h⟩ := exists_of_bind_eq_ok h
  cases h
  exact map_flatten_eq_flatMap
    ((mapM_eq_ok_iff.mp each).imp fun _ _ step => containers_of_asContainerFields step)

/-- The containers of the fields found in a module are those that claim its fields. -/
theorem containers_of_moduleContainerFields {module : Module} {found : List ContainerField}
    (h : env.moduleContainerFields module = .ok found) :
    found.map ContainerField.container = Container.claimingModule env.settings module := by
  obtain ⟨pieces, each, h⟩ := exists_of_bind_eq_ok h
  cases h
  exact map_flatten_eq_flatMap
    ((mapM_eq_ok_iff.mp each).imp fun _ _ step => containers_of_structContainerFields step)

/-- Every field found in a module comes from one field of the module. -/
theorem exists_containerField {module : Module} {found : List ContainerField}
    (h : env.moduleContainerFields module = .ok found) {result : ContainerField}
    (member : result ∈ found) :
    ∃ container, ∃ struct ∈ module.structs, ∃ field ∈ struct.fields,
      env.containerField container field struct.name (some module.id) = .ok result := by
  obtain ⟨perStruct, structs, h⟩ := exists_of_bind_eq_ok h
  cases h
  obtain ⟨piece, inPieces, member⟩ := List.mem_flatten.mp member
  obtain ⟨struct, inStructs, h⟩ := exists_element (mapM_eq_ok_iff.mp structs) inPieces
  obtain ⟨perField, fields, h⟩ := exists_of_bind_eq_ok h
  cases h
  obtain ⟨piece, inPieces, member⟩ := List.mem_flatten.mp member
  obtain ⟨field, inFields, h⟩ := exists_element (mapM_eq_ok_iff.mp fields) inPieces
  obtain ⟨container, _, h⟩ := exists_element (mapM_eq_ok_iff.mp h) member
  exact ⟨container, struct, inStructs, field, inFields, h⟩

/-- Every field found in a module has the name of its container. -/
theorem qualifiedName_of_mem {module : Module} {found : List ContainerField}
    (h : env.moduleContainerFields module = .ok found)
    (named : ∀ container : Container, container.configuredName env.settings ≠ "")
    {result : ContainerField} (member : result ∈ found) :
    result.qualifiedName = result.container.configuredName env.settings := by
  obtain ⟨container, _, _, _, _, built⟩ := exists_containerField h member
  obtain ⟨rfl, name_eq⟩ := of_containerField built
  exact name_eq (named _)

end Environment

end MoveBindings
