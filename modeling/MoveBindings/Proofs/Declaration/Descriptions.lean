import MoveBindings.Proofs.Declaration.Schema
import MoveBindings.Proofs.Manifest

/-!
# Packages that manifests can declare

Every package has a description in JSON, in which the types of fields are texts. When
all its declarations have names and all types are well formed, the description is
read back as the package. A manifest with it then declares the package, as long as
there is no other one of its name.
-/

namespace MoveBindings

/-! ## Descriptions -/

/-- A field as a manifest describes it. -/
def Field.description (field : Field) : Json :=
  .object [("name", .string field.name), ("type", .string field.type.text)]

/-- A struct as a manifest describes it. -/
def Struct.description (struct : Struct) : Json :=
  .object
    [("name", .string struct.name), ("fields", .array (struct.fields.map Field.description))]

/-- A module as a manifest describes it. -/
def Module.description (module : Module) : Json :=
  .object
    [ ("address", .string module.id.address), ("name", .string module.id.name),
      ("structs", .array (module.structs.map Struct.description)) ]

/-- A package as a manifest describes it. -/
def Package.description (package : Package) : Json :=
  .object
    [("name", .string package.name), ("modules", .array (package.modules.map Module.description))]

/-- A field that can be described: it has a name and a type that is read back. -/
structure Field.Describable (field : Field) : Prop where
  named : field.name ≠ ""
  typed : field.type.WellFormed

/-- A struct that can be described. -/
structure Struct.Describable (struct : Struct) : Prop where
  named : struct.name ≠ ""
  fields : ∀ field ∈ struct.fields, field.Describable

/-- A module that can be described. -/
structure Module.Describable (module : Module) : Prop where
  addressed : module.id.address ≠ ""
  named : module.id.name ≠ ""
  structs : ∀ struct ∈ module.structs, struct.Describable

/-- A package that can be described. -/
structure Package.Describable (package : Package) : Prop where
  named : package.name ≠ ""
  modules : ∀ module ∈ package.modules, module.Describable

/-! ## Reading them back -/

/-- A list of descriptions has what is described as its images. -/
theorem hasImages_map {α : Type} {value : Json} {key : String} {describe : α → Json}
    {Mirrors : Json → α → Prop} {images : List α}
    (listed : value.member? key = some (.array (images.map describe)))
    (each : ∀ image ∈ images, Mirrors (describe image) image) :
    value.HasImages key Mirrors images :=
  ⟨_, .items listed, List.forall₂_map_left_iff.mpr (List.forall₂_same.mpr each)⟩

theorem Tag.WellFormed.text_ne_empty {tag : Tag} (formed : tag.WellFormed) : tag.text ≠ "" := by
  cases formed with
  | scalar listed =>
    have named : ∀ name ∈ scalarNames, name ≠ "" := by decide
    exact named _ listed
  | vector => simp [Tag.text]
  | @struct name params => cases params <;> simp [Tag.text, QualifiedName.text]

theorem Field.Describable.mirrors {field : Field} (h : field.Describable) :
    Field.Mirrors field.description field where
  name := ⟨rfl, h.named⟩
  type := ⟨_, ⟨rfl, h.typed.text_ne_empty⟩, Tag.read_text_of_wellFormed h.typed⟩

theorem Struct.Describable.mirrors {struct : Struct} (h : struct.Describable) :
    Struct.Mirrors struct.description struct where
  name := ⟨rfl, h.named⟩
  fields := hasImages_map rfl fun field member => (h.fields field member).mirrors

theorem Module.Describable.mirrors {module : Module} (h : module.Describable) :
    Module.Mirrors module.description module where
  address := ⟨rfl, h.addressed⟩
  name := ⟨rfl, h.named⟩
  structs := hasImages_map rfl fun struct member => (h.structs struct member).mirrors

theorem Package.Describable.mirrors {package : Package} (h : package.Describable) :
    Package.Mirrors package.description package where
  name := ⟨rfl, h.named⟩
  modules := hasImages_map rfl fun module member => (h.modules module member).mirrors

/-- The description of a package is read as the package. -/
theorem Package.Describable.read {package : Package} (h : package.Describable) :
    Manifest.package package.description = .ok package :=
  Manifest.package_eq_ok_iff.mpr h.mirrors

/-! ## Declaring packages -/

namespace Catalog

variable {c larger : Catalog} {package : Package}

/-- A manifest of one package adds it. -/
theorem addManifest_description (described : package.Describable)
    (added : c.add package = .ok larger) :
    c.addManifest (.object [("packages", .array [package.description])]) = (.ok (), larger) := by
  have step : (Manifest.package package.description >>= c.add) = .ok larger := by
    rw [described.read, ok_bind, added]
  exact addAll_cons_of_ok step []

/-- What manifests declare can be extended by every package that can be described. -/
theorem Discovered.add (earlier : c.Discovered) (described : package.Describable)
    (added : c.add package = .ok larger) : larger.Discovered := by
  have discovered := earlier.manifest (.object [("packages", .array [package.description])])
  rwa [addManifest_description described added] at discovered

end Catalog

end MoveBindings
