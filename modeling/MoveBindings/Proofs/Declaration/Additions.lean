import MoveBindings.Proofs.Catalog
import MoveBindings.Proofs.FirstFailure

/-!
# Adding several packages

Packages go to the end of a catalog one after the other, as long as each has a
new name. Descriptions are worked through in the same way: up to the first that
cannot be decoded, or whose package has a name that is taken. The catalog then
holds what the descriptions before it declare. Nothing of the faulty one has
been added, and those after it have not been looked at.
-/

namespace MoveBindings

/-- What a package says about its modules: each of them lies in it. -/
def Package.places (package : Package) : List (ModuleId × String) :=
  package.modules.map fun module => (module.id, package.name)

namespace Catalog

/-- A catalog with more packages at its end. -/
def extended (c : Catalog) (packages : List Package) : Catalog where
  packages := c.packages ++ packages
  packageOf := c.packageOf.insertAll (packages.flatMap Package.places)

/-- Packages that a catalog has room for: their names are different and none is taken. -/
structure Admits (c : Catalog) (packages : List Package) : Prop where
  new : ∀ package ∈ packages, package.name ∉ c.names
  once : (packages.map Package.name).Nodup

/-- Why a description adds nothing to a catalog: it cannot be decoded, or there is a package of the
name that it gives. -/
inductive Refuses (c : Catalog) (value : Json) : Failure → Prop where
  | undecoded {failure : Failure} (fails : Manifest.package value = .error failure) :
      Refuses c value failure
  | taken {package : Package} (decoded : Manifest.package value = .ok package)
      (known : package.name ∈ c.names) :
      Refuses c value (.manifest (.declaredTwice package.name))

variable {c larger : Catalog} {package : Package} {packages : List Package}
  {value manifest : Json} {values : List Json} {failure : Failure}

@[simp] theorem packages_extended (c : Catalog) (packages : List Package) :
    (c.extended packages).packages = c.packages ++ packages := rfl

@[simp] theorem names_extended (c : Catalog) (packages : List Package) :
    (c.extended packages).names = c.names ++ packages.map Package.name := by
  simp [names]

@[simp] theorem extended_nil (c : Catalog) : c.extended [] = c := by
  simp [extended]

theorem extended_append (c : Catalog) (first second : List Package) :
    c.extended (first ++ second) = (c.extended first).extended second := by
  simp [extended, Dictionary.insertAll]

/-! ## Packages -/

theorem add_eq_ok_iff :
    c.add package = .ok larger ↔ package.name ∉ c.names ∧ larger = c.extended [package] := by
  have alone : c.extended [package] =
      ⟨c.packages ++ [package], c.packageOf.insertAll package.places⟩ := by
    rw [extended, List.flatMap_singleton]
  rw [alone, add]
  split
  · next known => simp [known]
  · next new =>
    rw [Except.ok.injEq, eq_comm]
    exact (and_iff_right new).symm

theorem add_eq_error_iff :
    c.add package = .error failure ↔
      package.name ∈ c.names ∧ failure = .manifest (.declaredTwice package.name) := by
  rw [add]
  split
  · next known =>
    rw [Except.error.injEq, eq_comm]
    exact (and_iff_right known).symm
  · next new => simp [new]

@[simp] theorem admits_nil (c : Catalog) : c.Admits [] := ⟨by simp, by simp⟩

/-- A catalog has room for packages when it has room for the first, and then for the others. -/
theorem admits_cons_iff : c.Admits (package :: packages) ↔
    package.name ∉ c.names ∧ (c.extended [package]).Admits packages := by
  constructor
  · rintro ⟨new, once⟩
    rw [List.map_cons, List.nodup_cons] at once
    refine ⟨new package List.mem_cons_self, fun other later known => ?_, once.2⟩
    rw [names_extended, List.mem_append, List.map_singleton, List.mem_singleton] at known
    rcases known with before | same
    · exact new other (List.mem_cons_of_mem package later) before
    · exact once.1 (same ▸ List.mem_map_of_mem later)
  · rintro ⟨first, new, once⟩
    have others : ∀ other ∈ packages, other.name ∉ c.names ∧ other.name ≠ package.name := by
      intro other later
      have free := new other later
      rwa [names_extended, List.mem_append, not_or, List.map_singleton, List.mem_singleton] at free
    constructor
    · intro other member
      rcases List.mem_cons.mp member with rfl | later
      · exact first
      · exact (others other later).1
    · rw [List.map_cons, List.nodup_cons]
      refine ⟨fun again => ?_, once⟩
      obtain ⟨other, later, same⟩ := List.mem_map.mp again
      exact (others other later).2 same

/-- Packages are added one after the other exactly when there is room for them. -/
theorem foldlM_add_eq_ok_iff :
    packages.foldlM add c = .ok larger ↔ c.Admits packages ∧ larger = c.extended packages := by
  induction packages generalizing c with
  | nil =>
    rw [List.foldlM_nil, extended_nil, and_iff_right (admits_nil c)]
    constructor
    · intro h
      cases h
      rfl
    · rintro rfl
      rfl
  | cons package rest ih =>
    rw [List.foldlM_cons, bind_eq_ok_iff, admits_cons_iff]
    simp only [add_eq_ok_iff, ih]
    have together : c.extended (package :: rest) = (c.extended [package]).extended rest :=
      extended_append c [package] rest
    rw [together]
    constructor
    · rintro ⟨_, ⟨first, rfl⟩, room, rfl⟩
      exact ⟨⟨first, room⟩, rfl⟩
    · rintro ⟨⟨first, room⟩, rfl⟩
      exact ⟨_, ⟨first, rfl⟩, room, rfl⟩

/-- What comes about by adding packages to such a catalog has come about by adding packages. -/
theorem Reachable.foldlM_add (h : Reachable c)
    (added : packages.foldlM Catalog.add c = .ok larger) :
    Reachable larger := by
  induction packages generalizing c with
  | nil =>
    cases added
    exact h
  | cons package rest ih =>
    obtain ⟨middle, first, later⟩ := exists_of_bind_eq_ok added
    exact ih (h.add first) later

/-! ## Descriptions -/

theorem refuses_iff : (Manifest.package value >>= c.add) = .error failure ↔
    c.Refuses value failure := by
  rw [bind_eq_error_iff]
  simp only [add_eq_error_iff]
  constructor
  · rintro (fails | ⟨package, decoded, known, rfl⟩)
    · exact .undecoded fails
    · exact .taken decoded known
  · rintro (fails | ⟨decoded, known⟩)
    · exact .inl fails
    · exact .inr ⟨_, decoded, known, rfl⟩

/-- Descriptions are all added exactly when all of them can be decoded, and then all their packages
can be added. -/
theorem addAll_eq_ok_iff : c.addAll values = (.ok (), larger) ↔
    ∃ packages, values.mapM Manifest.package = .ok packages ∧
      packages.foldlM add c = .ok larger := by
  simp only [mapM_eq_ok_iff]
  induction values generalizing c with
  | nil =>
    simp only [addAll_nil, List.forall₂_nil_left_iff, exists_eq_left, List.foldlM_nil,
      Prod.mk.injEq, true_and]
    exact Except.ok.injEq c larger ▸ Iff.rfl
  | cons value rest ih =>
    simp only [List.forall₂_cons_left_iff]
    cases step : Manifest.package value >>= c.add with
    | error failure =>
      rw [addAll_cons_of_error step]
      constructor
      · intro impossible
        cases impossible
      · rintro ⟨_, ⟨package, others, decoded, _, rfl⟩, added⟩
        rw [decoded, ok_bind] at step
        rw [List.foldlM_cons, step] at added
        cases added
    | ok middle =>
      rw [addAll_cons_of_ok step, ih]
      obtain ⟨package, decoded, first⟩ := exists_of_bind_eq_ok step
      constructor
      · rintro ⟨others, each, added⟩
        refine ⟨_, ⟨package, others, decoded, each, rfl⟩, ?_⟩
        rw [List.foldlM_cons, first, ok_bind, added]
      · rintro ⟨_, ⟨other, others, alsoDecoded, each, rfl⟩, added⟩
        cases decoded.symm.trans alsoDecoded
        rw [List.foldlM_cons, first, ok_bind] at added
        exact ⟨others, each, added⟩

/-- More descriptions are added to what there is then, unless there was a failure. After one no more
descriptions are looked at. -/
theorem addAll_append (c : Catalog) (values others : List Json) :
    c.addAll (values ++ others) =
      match c.addAll values with
      | (.ok (), middle) => middle.addAll others
      | (.error failure, left) => (.error failure, left) := by
  induction values generalizing c with
  | nil => rfl
  | cons value rest ih =>
    rw [List.cons_append]
    cases step : Manifest.package value >>= c.add with
    | error failure => rw [addAll_cons_of_error step, addAll_cons_of_error step]
    | ok next => rw [addAll_cons_of_ok step, addAll_cons_of_ok step, ih]

/-- Two lists of descriptions are added as one list exactly when they are one after the other. -/
theorem addAll_append_eq_ok_iff {others : List Json} :
    c.addAll (values ++ others) = (.ok (), larger) ↔
      ∃ middle, c.addAll values = (.ok (), middle) ∧ middle.addAll others = (.ok (), larger) := by
  rw [addAll_append]
  constructor
  · intro added
    split at added
    · next middle first => exact ⟨middle, first, added⟩
    · cases added
  · rintro ⟨middle, first, second⟩
    rw [first]
    exact second

/-- Adding descriptions fails exactly when one is refused after all before it were added; the
catalog is left as it was then. -/
theorem addAll_eq_error_iff : c.addAll values = (.error failure, larger) ↔
    ∃ before value after, values = before ++ value :: after ∧
      c.addAll before = (.ok (), larger) ∧ larger.Refuses value failure := by
  constructor
  · intro fails
    induction values generalizing c with
    | nil => cases fails
    | cons value rest ih =>
      cases step : Manifest.package value >>= c.add with
      | error problem =>
        rw [addAll_cons_of_error step] at fails
        cases fails
        exact ⟨[], value, rest, rfl, rfl, refuses_iff.mp step⟩
      | ok next =>
        rw [addAll_cons_of_ok step] at fails
        obtain ⟨before, faulty, after, rfl, added, refused⟩ := ih fails
        refine ⟨value :: before, faulty, after, rfl, ?_, refused⟩
        rw [addAll_cons_of_ok step, added]
  · rintro ⟨before, value, after, rfl, added, refused⟩
    rw [addAll_append, added]
    exact addAll_cons_of_error (refuses_iff.mpr refused) after

/-! ## Manifests -/

/-- A manifest with a list of packages adds what the list describes. -/
theorem addManifest_eq_addAll (listed : manifest.member? "packages" = some (.array values)) :
    c.addManifest manifest = c.addAll values := by
  simp only [addManifest, listed]

/-- A value without a list of packages adds nothing. -/
theorem addManifest_of_no_list
    (unlisted : ∀ values, manifest.member? "packages" ≠ some (.array values)) :
    c.addManifest manifest = (.error (.manifest .noPackages), c) := by
  unfold addManifest
  split
  · next values listed => exact absurd listed (unlisted values)
  · rfl

end Catalog

end MoveBindings
