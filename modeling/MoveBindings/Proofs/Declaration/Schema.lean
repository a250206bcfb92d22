import MoveBindings.Proofs.Declaration.Additions

/-!
# The schema of manifests

A manifest is an object with a list of packages. Every declaration in it is an
object with a name, modules also have an address and fields a type. Lists of
modules, structs and fields may be left out, or be the empty text or the empty
object. Exactly such manifests are accepted, as long as the names of their
packages are new, and what they add mirrors the lists, element by element.
-/

namespace MoveBindings

namespace Json

/-- A member of an object is a text that is not empty. -/
def HasText (value : Json) (key text : String) : Prop :=
  value.member? key = some (.string text) ∧ text ≠ ""

/-- A member of an object lists some items. There are three ways to list none beside the empty
list. -/
inductive HasList (value : Json) (key : String) : List Json → Prop where
  | items {items : List Json} (given : value.member? key = some (.array items)) :
      HasList value key items
  | absent (given : value.member? key = none) : HasList value key []
  | emptyText (given : value.member? key = some (.string "")) : HasList value key []
  | emptyObject (given : value.member? key = some (.object [])) : HasList value key []

/-- A member lists items of one kind. -/
def HasListOf (value : Json) (key : String) (Valid : Json → Prop) : Prop :=
  ∃ items, value.HasList key items ∧ ∀ item ∈ items, Valid item

/-- A member lists one item for each of some images. -/
def HasImages {α : Type} (value : Json) (key : String) (Mirrors : Json → α → Prop)
    (images : List α) : Prop :=
  ∃ items, value.HasList key items ∧ List.Forall₂ Mirrors items images

/-- The description of a field: a name and the text of a type. -/
structure IsField (value : Json) : Prop where
  name : ∃ text, value.HasText "name" text
  type : ∃ text tag, value.HasText "type" text ∧ Tag.read text = .ok tag

/-- The description of a struct: a name and descriptions of fields. -/
structure IsStruct (value : Json) : Prop where
  name : ∃ text, value.HasText "name" text
  fields : value.HasListOf "fields" IsField

/-- The description of a module: an address, a name and descriptions of structs. -/
structure IsModule (value : Json) : Prop where
  address : ∃ text, value.HasText "address" text
  name : ∃ text, value.HasText "name" text
  structs : value.HasListOf "structs" IsStruct

/-- The description of a package: a name and descriptions of modules. -/
structure IsPackage (value : Json) : Prop where
  name : ∃ text, value.HasText "name" text
  modules : value.HasListOf "modules" IsModule

/-- A manifest lists descriptions of packages. Their names are different, and none is taken. -/
def IsManifest (taken : List String) (value : Json) : Prop :=
  ∃ items, value.member? "packages" = some (.array items) ∧ (∀ item ∈ items, item.IsPackage) ∧
    ∃ names, List.Forall₂ (fun item name => HasText item "name" name) items names ∧
      names.Nodup ∧ ∀ name ∈ names, name ∉ taken

end Json

/-- A field has the name that its description gives, and the type that is read from the text. -/
structure Field.Mirrors (value : Json) (field : Field) : Prop where
  name : value.HasText "name" field.name
  type : ∃ text, value.HasText "type" text ∧ Tag.read text = .ok field.type

/-- A struct has the name that its description gives, and a field for each that is listed. -/
structure Struct.Mirrors (value : Json) (struct : Struct) : Prop where
  name : value.HasText "name" struct.name
  fields : value.HasImages "fields" Field.Mirrors struct.fields

/-- A module has the address and the name that its description gives, and a struct for each that is
listed. -/
structure Module.Mirrors (value : Json) (module : Module) : Prop where
  address : value.HasText "address" module.id.address
  name : value.HasText "name" module.id.name
  structs : value.HasImages "structs" Struct.Mirrors module.structs

/-- A package has the name that its description gives, and a module for each that is listed. -/
structure Package.Mirrors (value : Json) (package : Package) : Prop where
  name : value.HasText "name" package.name
  modules : value.HasImages "modules" Module.Mirrors package.modules

variable {α : Type} {value : Json} {key text : String}

/-! ## Descriptions that have a mirror image -/

section Images

/-- When every item of a kind has an image, so has a list of such items. -/
theorem hasListOf_iff {Valid : Json → Prop} {Mirrors : Json → α → Prop}
    (each : ∀ item, Valid item ↔ ∃ image, Mirrors item image) :
    value.HasListOf key Valid ↔ ∃ images, value.HasImages key Mirrors images := by
  simp only [Json.HasListOf, Json.HasImages, each, ← exists_forall₂_iff]
  constructor
  · rintro ⟨items, listed, images, related⟩
    exact ⟨images, items, listed, related⟩
  · rintro ⟨images, items, listed, related⟩
    exact ⟨items, listed, images, related⟩

/-- A member is one text at most. -/
theorem hasText_unique : Relator.RightUnique fun value text => Json.HasText value key text := by
  rintro value one other ⟨first, _⟩ ⟨second, _⟩
  cases first.symm.trans second
  rfl

theorem isField_iff : value.IsField ↔ ∃ field, Field.Mirrors value field := by
  constructor
  · rintro ⟨⟨name, named⟩, text, tag, typed, read⟩
    exact ⟨⟨name, tag⟩, named, text, typed, read⟩
  · rintro ⟨field, named, text, typed, read⟩
    exact ⟨⟨_, named⟩, text, _, typed, read⟩

theorem isStruct_iff : value.IsStruct ↔ ∃ struct, Struct.Mirrors value struct := by
  have fields : value.HasListOf "fields" Json.IsField ↔
      ∃ images, value.HasImages "fields" Field.Mirrors images :=
    hasListOf_iff fun item => isField_iff
  constructor
  · rintro ⟨⟨name, named⟩, listed⟩
    obtain ⟨images, related⟩ := fields.mp listed
    exact ⟨⟨name, images⟩, named, related⟩
  · rintro ⟨struct, named, related⟩
    exact ⟨⟨_, named⟩, fields.mpr ⟨_, related⟩⟩

theorem isModule_iff : value.IsModule ↔ ∃ module, Module.Mirrors value module := by
  have structs : value.HasListOf "structs" Json.IsStruct ↔
      ∃ images, value.HasImages "structs" Struct.Mirrors images :=
    hasListOf_iff fun item => isStruct_iff
  constructor
  · rintro ⟨⟨address, placed⟩, ⟨name, named⟩, listed⟩
    obtain ⟨images, related⟩ := structs.mp listed
    exact ⟨⟨⟨address, name⟩, images⟩, placed, named, related⟩
  · rintro ⟨module, placed, named, related⟩
    exact ⟨⟨_, placed⟩, ⟨_, named⟩, structs.mpr ⟨_, related⟩⟩

theorem isPackage_iff : value.IsPackage ↔ ∃ package, Package.Mirrors value package := by
  have modules : value.HasListOf "modules" Json.IsModule ↔
      ∃ images, value.HasImages "modules" Module.Mirrors images :=
    hasListOf_iff fun item => isModule_iff
  constructor
  · rintro ⟨⟨name, named⟩, listed⟩
    obtain ⟨images, related⟩ := modules.mp listed
    exact ⟨⟨name, images⟩, named, related⟩
  · rintro ⟨package, named, related⟩
    exact ⟨⟨_, named⟩, modules.mpr ⟨_, related⟩⟩

/-- A manifest has the right form when its packages have images that a catalog has room for. -/
theorem isManifest_iff {c : Catalog} : value.IsManifest c.names ↔
    ∃ items packages, value.member? "packages" = some (.array items) ∧
      List.Forall₂ Package.Mirrors items packages ∧ c.Admits packages := by
  have named {items : List Json} {packages : List Package}
      (mirrored : List.Forall₂ Package.Mirrors items packages) :
      List.Forall₂ (fun item name => Json.HasText item "name" name) items
        (packages.map Package.name) :=
    List.forall₂_map_right_iff.mpr (mirrored.imp fun item package mirrors => mirrors.name)
  constructor
  · rintro ⟨items, listed, each, names, given, once, new⟩
    obtain ⟨packages, mirrored⟩ :=
      exists_forall₂_iff.mpr fun item member => isPackage_iff.mp (each item member)
    have same : names = packages.map Package.name :=
      Relator.RightUnique.forall₂ hasText_unique given (named mirrored)
    subst same
    exact ⟨items, packages, listed, mirrored, fun package member =>
      new package.name (List.mem_map_of_mem member), once⟩
  · rintro ⟨items, packages, listed, mirrored, new, once⟩
    have each := exists_forall₂_iff.mp ⟨packages, mirrored⟩
    refine ⟨items, listed, fun item member => isPackage_iff.mpr (each item member), _,
      named mirrored, once, ?_⟩
    intro name member
    obtain ⟨package, added, rfl⟩ := List.mem_map.mp member
    exact new package added

end Images

/-! ## Reading descriptions -/

namespace Manifest

theorem required_eq_ok_iff {part : ManifestPart} :
    required value key part = .ok text ↔ value.HasText key text := by
  unfold required Json.HasText
  split
  · next given present =>
    rw [present]
    by_cases empty : given = ""
    · subst empty
      rw [if_pos rfl]
      constructor
      · nofun
      · rintro ⟨same, nonempty⟩
        cases same
        exact absurd rfl nonempty
    · rw [if_neg empty]
      constructor
      · intro same
        cases same
        exact ⟨rfl, empty⟩
      · rintro ⟨same, _⟩
        cases same
        rfl
  · next other =>
    constructor
    · nofun
    · rintro ⟨present, _⟩
      exact absurd present (other text)

theorem typeOf_eq_ok_iff {tag : Tag} : typeOf text = .ok tag ↔ Tag.read text = .ok tag := by
  unfold typeOf
  cases Tag.read text <;> simp

/-- No text is the description of anything. -/
theorem not_hasText_string (given : String) : ¬(Json.string given).HasText key text := by
  rintro ⟨impossible, _⟩
  cases impossible

/-- The elements of a member can be read one by one when it lists items that can. A text or an
object in the place of a list gives texts, which have no names, so only an empty one can be read. -/
theorem elements_mapM_eq_ok_iff {read : Json → Except Failure α} {Mirrors : Json → α → Prop}
    {images : List α} (reads : ∀ item image, read item = .ok image ↔ Mirrors item image)
    (named : ∀ item image, Mirrors item image → ∃ name, item.HasText "name" name) :
    (∃ items, elements value key = .ok items ∧ items.mapM read = .ok images) ↔
      value.HasImages key Mirrors images := by
  have noTexts {β : Type} {texts : List β} {toText : β → String}
      (each : List.Forall₂ Mirrors (texts.map fun element => .string (toText element)) images) :
      texts = [] := by
    cases texts with
    | nil => rfl
    | cons first rest =>
      obtain ⟨image, _, mirrored⟩ := exists_result each List.mem_cons_self
      obtain ⟨name, impossible⟩ := named _ image mirrored
      exact absurd impossible (not_hasText_string _)
  simp only [Json.HasImages, mapM_eq_ok_iff, reads]
  constructor
  · rintro ⟨items, listed, each⟩
    unfold elements at listed
    split at listed
    · next given =>
      cases listed
      exact ⟨[], .absent given, each⟩
    · next given =>
      cases listed
      exact ⟨items, .items given, each⟩
    · next text given =>
      cases listed
      have empty : text = "" := String.toList_eq_nil_iff.mp (noTexts each)
      subst empty
      exact ⟨[], .emptyText given, each⟩
    · next members given =>
      cases listed
      have empty : members = [] := noTexts each
      subst empty
      exact ⟨[], .emptyObject given, each⟩
    · cases listed
  · rintro ⟨items, listed, each⟩
    refine ⟨items, ?_, each⟩
    cases listed <;> simp_all [elements]

theorem field_eq_ok_iff {id : ModuleId} {owner : String} {result : Field} :
    field id owner value = .ok result ↔ Field.Mirrors value result := by
  simp only [field, bind_eq_ok_iff, required_eq_ok_iff, typeOf_eq_ok_iff]
  constructor
  · rintro ⟨name, named, text, typed, tag, read, made⟩
    cases made
    exact ⟨named, text, typed, read⟩
  · rintro ⟨named, text, typed, read⟩
    exact ⟨_, named, text, typed, _, read, rfl⟩

theorem struct_eq_ok_iff {id : ModuleId} {result : Struct} :
    struct id value = .ok result ↔ Struct.Mirrors value result := by
  have fields (name : String) (images : List Field) :
      (∃ items, elements value "fields" = .ok items ∧
        items.mapM (field id name) = .ok images) ↔
        value.HasImages "fields" Field.Mirrors images :=
    elements_mapM_eq_ok_iff (fun item image => field_eq_ok_iff)
      fun item image mirrors => ⟨_, mirrors.name⟩
  simp only [struct, bind_eq_ok_iff, required_eq_ok_iff]
  constructor
  · rintro ⟨name, named, items, listed, images, each, made⟩
    cases made
    exact ⟨named, (fields name images).mp ⟨items, listed, each⟩⟩
  · rintro ⟨named, related⟩
    obtain ⟨items, listed, each⟩ := (fields _ _).mpr related
    exact ⟨_, named, items, listed, _, each, rfl⟩

theorem module_eq_ok_iff {owner : String} {result : Module} :
    module owner value = .ok result ↔ Module.Mirrors value result := by
  have structs (id : ModuleId) (images : List Struct) :
      (∃ items, elements value "structs" = .ok items ∧ items.mapM (struct id) = .ok images) ↔
        value.HasImages "structs" Struct.Mirrors images :=
    elements_mapM_eq_ok_iff (fun item image => struct_eq_ok_iff)
      fun item image mirrors => ⟨_, mirrors.name⟩
  simp only [module, bind_eq_ok_iff, required_eq_ok_iff]
  constructor
  · rintro ⟨address, placed, name, named, items, listed, images, each, made⟩
    cases made
    exact ⟨placed, named, (structs _ images).mp ⟨items, listed, each⟩⟩
  · rintro ⟨placed, named, related⟩
    obtain ⟨items, listed, each⟩ := (structs result.id _).mpr related
    exact ⟨_, placed, _, named, items, listed, _, each, rfl⟩

theorem package_eq_ok_iff {result : Package} :
    package value = .ok result ↔ Package.Mirrors value result := by
  have modules (name : String) (images : List Module) :
      (∃ items, elements value "modules" = .ok items ∧ items.mapM (module name) = .ok images) ↔
        value.HasImages "modules" Module.Mirrors images :=
    elements_mapM_eq_ok_iff (fun item image => module_eq_ok_iff)
      fun item image mirrors => ⟨_, mirrors.name⟩
  simp only [package, bind_eq_ok_iff, required_eq_ok_iff]
  constructor
  · rintro ⟨name, named, items, listed, images, each, made⟩
    cases made
    exact ⟨named, (modules name images).mp ⟨items, listed, each⟩⟩
  · rintro ⟨named, related⟩
    obtain ⟨items, listed, each⟩ := (modules result.name _).mpr related
    exact ⟨_, named, items, listed, _, each, rfl⟩

end Manifest

/-! ## Manifests -/

namespace Catalog

variable {c larger : Catalog} {manifest : Json}

/-- A manifest is accepted when its packages are described as they should be and there is room for
them. They are added in order. -/
theorem addManifest_eq_ok_iff : c.addManifest manifest = (.ok (), larger) ↔
    ∃ items packages, manifest.member? "packages" = some (.array items) ∧
      List.Forall₂ Package.Mirrors items packages ∧ c.Admits packages ∧
        larger = c.extended packages := by
  constructor
  · intro added
    by_cases listed : ∃ items, manifest.member? "packages" = some (.array items)
    · obtain ⟨items, listed⟩ := listed
      rw [addManifest_eq_addAll listed] at added
      obtain ⟨packages, decoded, inTurn⟩ := addAll_eq_ok_iff.mp added
      simp only [mapM_eq_ok_iff, Manifest.package_eq_ok_iff] at decoded
      exact ⟨items, packages, listed, decoded, foldlM_add_eq_ok_iff.mp inTurn⟩
    · rw [addManifest_of_no_list (not_exists.mp listed)] at added
      cases added
  · rintro ⟨items, packages, listed, mirrored, room⟩
    rw [addManifest_eq_addAll listed, addAll_eq_ok_iff]
    refine ⟨packages, ?_, foldlM_add_eq_ok_iff.mpr room⟩
    simpa only [mapM_eq_ok_iff, Manifest.package_eq_ok_iff] using mirrored

/-- Exactly those manifests are accepted that have the form of manifests, with packages under new
names. Accepting one adds packages that mirror its list, one for each item and in its order, and
nothing else. -/
theorem manifest_accepted_iff (c : Catalog) (manifest : Json) :
    ((c.addManifest manifest).1 = .ok () ↔ manifest.IsManifest c.names) ∧
    ∀ larger, c.addManifest manifest = (.ok (), larger) ↔
      ∃ items packages, manifest.member? "packages" = some (.array items) ∧
        List.Forall₂ Package.Mirrors items packages ∧ c.Admits packages ∧
          larger = c.extended packages := by
  refine ⟨?_, fun larger => addManifest_eq_ok_iff⟩
  rw [isManifest_iff]
  constructor
  · intro succeeds
    obtain ⟨items, packages, listed, mirrored, room, _⟩ :=
      addManifest_eq_ok_iff.mp (Prod.ext succeeds rfl)
    exact ⟨items, packages, listed, mirrored, room⟩
  · rintro ⟨items, packages, listed, mirrored, room⟩
    rw [addManifest_eq_ok_iff.mpr ⟨items, packages, listed, mirrored, room, rfl⟩]

/-- An empty text and an empty object list nothing, as does a member that is left out. -/
example :
    let module (name : String) (structs : List (String × Json)) : Json :=
      .object ([("address", .string "0x2"), ("name", .string name)] ++ structs)
    addManifest {} (.object [("packages", .array [.object [("name", .string "Shop"),
      ("modules", .array [module "Market" [("structs", .string "")],
        module "Depot" [("structs", .object [])], module "Yard" []])]])]) =
      (.ok (), extended {} [⟨"Shop",
        [⟨⟨"0x2", "Market"⟩, []⟩, ⟨⟨"0x2", "Depot"⟩, []⟩, ⟨⟨"0x2", "Yard"⟩, []⟩]⟩]) :=
  rfl

end Catalog

end MoveBindings
