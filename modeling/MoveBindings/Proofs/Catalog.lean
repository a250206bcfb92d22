import MoveBindings.Declaration.Manifest
import MoveBindings.Proofs.Dictionary
import MoveBindings.Proofs.MoveIdentifier
import MoveBindings.Proofs.Outcomes

/-!
# What a catalog holds

A catalog comes about by adding packages to the empty one, one by one or as a
manifest lists them. Every such catalog has each package name once, and finds
the package of a module as the last one that lists it.
-/

namespace MoveBindings

namespace Package

/-- A package lists the modules it holds. -/
theorem lists_eq_true_iff {package : Package} {id : ModuleId} :
    package.lists id = true ↔ id ∈ package.modules.map Module.id := by
  simp [lists, List.any_eq_true]

end Package

namespace Catalog

/-- The catalogs that come about by adding packages. -/
inductive Reachable : Catalog → Prop where
  | empty : Reachable {}
  | add {c larger : Catalog} {package : Package} (earlier : Reachable c)
      (added : c.add package = .ok larger) : Reachable larger

variable {c : Catalog}

/-- A list of descriptions adds packages, also when it fails. -/
theorem Reachable.addAll (h : Reachable c) (values : List Json) : Reachable (c.addAll values).2 := by
  induction values generalizing c with
  | nil => exact h
  | cons value rest ih =>
    cases step : Manifest.package value >>= c.add with
    | error failure => rwa [addAll_cons_of_error step]
    | ok extended =>
      obtain ⟨package, _, added⟩ := exists_of_bind_eq_ok step
      rw [addAll_cons_of_ok step]
      exact ih (h.add added)

/-- A manifest adds packages, also when it fails. -/
theorem Reachable.addManifest (h : Reachable c) (manifest : Json) :
    Reachable (c.addManifest manifest).2 := by
  unfold Catalog.addManifest
  split
  · exact h.addAll _
  · exact h

/-- No two packages have one name. -/
theorem Reachable.names_nodup (h : Reachable c) : c.names.Nodup := by
  induction h with
  | empty => exact List.nodup_nil
  | @add c larger package _ added ih =>
    obtain ⟨new, shape⟩ := packages_of_add added
    have names : larger.names = c.names ++ [package.name] := by simp [Catalog.names, shape]
    rw [names]
    refine List.nodup_append.mpr ⟨ih, by simp, ?_⟩
    rintro other known _ last rfl
    exact new (List.mem_singleton.mp last ▸ known)

/-- The package of a module is the last one that lists it. -/
theorem Reachable.find?_packageOf (h : Reachable c) (id : ModuleId) :
    c.packageOf.find? id =
      (c.packages.reverse.find? fun package => package.lists id).map Package.name := by
  induction h with
  | empty => rfl
  | @add c larger package _ added ih =>
    unfold Catalog.add at added
    split at added
    · cases added
    · cases added
      have newest := Dictionary.find?_insertAll_map c.packageOf package.modules Module.id
        package.name id
      simp only [← Package.lists_eq_true_iff, ih] at newest
      rw [newest, List.reverse_append, List.reverse_singleton, List.singleton_append,
        List.find?_cons]
      cases package.lists id <;> simp

/-- A module is found in a package that lists it. -/
theorem Reachable.exists_package (h : Reachable c) {id : ModuleId} {name : String}
    (found : c.packageOf.find? id = some name) :
    ∃ package ∈ c.packages, package.name = name ∧ package.lists id = true := by
  rw [h.find?_packageOf, Option.map_eq_some_iff] at found
  obtain ⟨package, last, named⟩ := found
  have listed := List.find?_some last
  exact ⟨package, List.mem_reverse.mp (List.mem_of_find?_eq_some last), named, listed⟩

/-- A module is not found when no package lists it. -/
theorem Reachable.find?_eq_none_iff (h : Reachable c) {id : ModuleId} :
    c.packageOf.find? id = none ↔ ∀ package ∈ c.packages, package.lists id = false := by
  simp [h.find?_packageOf]

/-- The packages and modules of a catalog are named by identifiers. -/
structure HasMoveIdentifiers (c : Catalog) : Prop where
  package : ∀ package ∈ c.packages, IsMoveIdentifier package.name
  module : ∀ package ∈ c.packages, ∀ module ∈ package.modules, IsMoveIdentifier module.id.name

end Catalog

end MoveBindings
