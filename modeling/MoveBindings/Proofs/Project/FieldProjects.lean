import Mathlib.Data.List.Induction
import Mathlib.Data.List.Nodup
import MoveBindings.Project
import MoveBindings.Proofs.Declaration.Descriptions

/-!
# Projects with one field in each package

The simplest projects with container fields have packages of one module, whose
one struct has one field, a table. Any number of such packages can be declared
by manifests, one after the other, as long as their names are different. What
generation does with a project shows in these already.
-/

namespace MoveBindings

namespace Project

/-- The type of tables with the given parameters. -/
def tableOf (params : List Tag) : Tag := .struct ⟨"0x1", "Table", "Table"⟩ params

/-- A module with one struct that has one field, a table with the given parameters. -/
def fieldModule (params : List Tag) (name : String) : Module :=
  ⟨⟨"0x2", name⟩, [⟨"Store", [⟨"items", tableOf params⟩]⟩]⟩

/-- A package with one such module. A place is the name of the package and that of the module. -/
def fieldPackage (params : List Tag) (place : String × String) : Package :=
  ⟨place.1, [fieldModule params place.2]⟩

/-- The project of such packages, with standard settings. -/
def fieldProject (params : List Tag) (places : List (String × String)) : Project where
  catalog :=
    { packages := places.map (fieldPackage params)
      packageOf := .ofList (places.map fun place => (⟨"0x2", place.2⟩, place.1)) }

/-- The description of such a package in a manifest. -/
def fieldDescription (params : List Tag) (place : String × String) : Json :=
  let field : Json :=
    .object [("name", .string "items"), ("type", .string (tableOf params).text)]
  let struct : Json := .object [("name", .string "Store"), ("fields", .array [field])]
  let module : Json :=
    .object [("address", .string "0x2"), ("name", .string place.2), ("structs", .array [struct])]
  .object [("name", .string place.1), ("modules", .array [module])]

variable {params : List Tag} {places : List (String × String)} {place : String × String}

theorem tableOf_wellFormed (formed : ∀ param ∈ params, param.WellFormed) :
    (tableOf params).WellFormed :=
  .struct (by decide) (by decide) (by decide) (by decide) (by decide) formed

theorem scalars_wellFormed (types : List String) (known : ∀ type ∈ types, type ∈ Tag.scalarNames) :
    ∀ param ∈ types.map Tag.scalar, param.WellFormed := by
  intro param member
  obtain ⟨type, inTypes, rfl⟩ := List.mem_map.mp member
  exact .scalar (known type inTypes)

/-- A package under a new name can be added. -/
theorem add_fieldPackage (new : place.1 ∉ places.map Prod.fst) :
    (fieldProject params places).catalog.add (fieldPackage params place) =
      .ok (fieldProject params (places ++ [place])).catalog := by
  have names : (fieldProject params places).catalog.names = places.map Prod.fst := by
    simp [fieldProject, Catalog.names, fieldPackage]
  have unknown : (fieldPackage params place).name ∉ (fieldProject params places).catalog.names :=
    names ▸ new
  rw [Catalog.add, if_neg unknown]
  simp [fieldProject, Dictionary.ofList, Dictionary.insertAll, fieldPackage, fieldModule]

theorem fieldPackage_describable (formed : ∀ param ∈ params, param.WellFormed)
    (named : place.1 ≠ "" ∧ place.2 ≠ "") : (fieldPackage params place).Describable where
  named := named.1
  modules := by
    have items : Field.Describable ⟨"items", tableOf params⟩ :=
      ⟨by simp, tableOf_wellFormed formed⟩
    have store : Struct.Describable ⟨"Store", [⟨"items", tableOf params⟩]⟩ :=
      ⟨by simp, List.forall_mem_singleton.mpr items⟩
    refine List.forall_mem_singleton.mpr ⟨?_, named.2, List.forall_mem_singleton.mpr store⟩
    simp [fieldModule]

/-- The description of a package is read as the package. -/
theorem package_fieldDescription (formed : ∀ param ∈ params, param.WellFormed)
    (named : place.1 ≠ "" ∧ place.2 ≠ "") :
    Manifest.package (fieldDescription params place) = .ok (fieldPackage params place) :=
  (fieldPackage_describable formed named).read

/-- Packages under new names can be added one after the other. -/
theorem foldlM_fieldPackage {before : List (String × String)}
    (distinct : ((before ++ places).map Prod.fst).Nodup) :
    (places.map (fieldPackage params)).foldlM Catalog.add (fieldProject params before).catalog =
      .ok (fieldProject params (before ++ places)).catalog := by
  induction places generalizing before with
  | nil => rw [List.append_nil]; rfl
  | cons place rest ih =>
    have new : place.1 ∉ before.map Prod.fst := by
      intro known
      rw [List.map_append] at distinct
      exact (List.nodup_append.mp distinct).2.2 _ known _ List.mem_cons_self rfl
    have shifted : before ++ place :: rest = (before ++ [place]) ++ rest := by simp
    rw [shifted] at distinct ⊢
    rw [List.map_cons, List.foldlM_cons, add_fieldPackage new, ok_bind, ih distinct]

/-- Descriptions of packages are read as the packages. -/
theorem mapM_fieldDescription (formed : ∀ param ∈ params, param.WellFormed)
    (named : ∀ place ∈ places, place.1 ≠ "" ∧ place.2 ≠ "") :
    (places.map (fieldDescription params)).mapM Manifest.package =
      .ok (places.map (fieldPackage params)) := by
  rw [mapM_eq_ok_iff, List.forall₂_map_left_iff, List.forall₂_map_right_iff, List.forall₂_same]
  exact fun place member => package_fieldDescription formed (named place member)

/-- Packages with different names that have names at all can be declared by manifests. -/
theorem fieldProject_discovered (formed : ∀ param ∈ params, param.WellFormed)
    (named : ∀ place ∈ places, place.1 ≠ "" ∧ place.2 ≠ "")
    (distinct : (places.map Prod.fst).Nodup) :
    (fieldProject params places).catalog.Discovered := by
  induction places using List.reverseRecOn with
  | nil => exact .empty
  | append_singleton before last ih =>
    rw [List.map_append, List.map_singleton, ← List.concat_eq_append, List.nodup_concat] at distinct
    obtain ⟨new, distinctBefore⟩ := distinct
    have earlier := ih (fun place member => named place (List.mem_append_left _ member))
      distinctBefore
    exact earlier.add (fieldPackage_describable formed (named last (by simp)))
      (add_fieldPackage new)

end Project

end MoveBindings
