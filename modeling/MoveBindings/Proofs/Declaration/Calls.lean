import MoveBindings.Proofs.Declaration.Additions
import MoveBindings.Proofs.Lists

/-!
# What calls leave in a catalog

A catalog is filled by calls, each with one package or with a manifest. Any of
them may fail, a manifest also when it has added some packages already. Which
packages have been added is told by their names alone: a call adds what it
offers, one by one, up to the first description that cannot be decoded or the
first name that is taken. Everything the catalog holds follows from the list of
these packages, also the package of each module.
-/

namespace MoveBindings

/-- Something that is asked of a catalog: to add a package, or the packages of a manifest. -/
inductive Call where
  | add (package : Package)
  | manifest (value : Json)

namespace Call

/-- The outcome of a call, and the catalog that it leaves. -/
def run : Call → Catalog → Except Failure Unit × Catalog
  | .add package, c =>
    match c.add package with
    | .ok larger => (.ok (), larger)
    | .error failure => (.error failure, c)
  | .manifest value, c => c.addManifest value

/-- The packages that a call offers, with the failures of those that cannot be decoded. A manifest
without a list of packages offers a failure alone. -/
def offered : Call → List (Except Failure Package)
  | .add package => [.ok package]
  | .manifest value =>
    match value.member? "packages" with
    | some (.array values) => values.map Manifest.package
    | _ => [.error (.manifest .noPackages)]

/-- The packages that are added of those that are offered, when some names are taken. -/
def admitted (taken : List String) : List (Except Failure Package) → List Package
  | [] => []
  | .error _ :: _ => []
  | .ok package :: rest =>
    if package.name ∈ taken then [] else package :: admitted (taken ++ [package.name]) rest

/-- A call gets all that it asks for when everything it offers is added. -/
def IsGranted (taken : List String) (call : Call) : Prop :=
  call.offered = (admitted taken call.offered).map .ok

/-- The packages that calls add, one after the other. -/
def additions (taken : List String) : List Call → List Package
  | [] => []
  | call :: rest =>
    let new := admitted taken call.offered
    new ++ additions (taken ++ new.map Package.name) rest

end Call

namespace Catalog

/-- The catalog that calls leave. -/
def after (c : Catalog) (calls : List Call) : Catalog :=
  calls.foldl (fun c call => (call.run c).2) c

variable {c : Catalog} {added : List Package}

/-! ## One call -/

/-- Of several offers the first is refused, and then nothing is added, or it is a package that is
added, and the others are considered with its name taken. -/
theorem admitted_cases (c : Catalog) (offer : Except Failure Package)
    (others : List (Except Failure Package)) :
    (∃ failure, (offer >>= c.add) = .error failure ∧
      Call.admitted c.names (offer :: others) = []) ∨
    ∃ package, offer = .ok package ∧ c.add package = .ok (c.extended [package]) ∧
      Call.admitted c.names (offer :: others) =
        package :: Call.admitted (c.extended [package]).names others := by
  cases offer with
  | error failure => exact .inl ⟨failure, rfl, rfl⟩
  | ok package =>
    by_cases known : package.name ∈ c.names
    · exact .inl ⟨_, add_eq_error_iff.mpr ⟨known, rfl⟩, if_pos known⟩
    · refine .inr ⟨package, rfl, add_eq_ok_iff.mpr ⟨known, rfl⟩, ?_⟩
      rw [names_extended]
      exact if_neg known

/-- Of descriptions those packages are added that are admitted. -/
theorem foldlM_admitted (c : Catalog) (values : List Json) :
    (Call.admitted c.names (values.map Manifest.package)).foldlM add c =
      .ok (c.addAll values).2 := by
  induction values generalizing c with
  | nil => rfl
  | cons value rest ih =>
    rw [List.map_cons]
    rcases c.admitted_cases (Manifest.package value) (rest.map Manifest.package) with
      ⟨failure, refused, none⟩ | ⟨package, decoded, added, more⟩
    · rw [addAll_cons_of_error refused, none]
      rfl
    · have step : (Manifest.package value >>= c.add) = .ok (c.extended [package]) := by
        rw [decoded, ok_bind, added]
      rw [addAll_cons_of_ok step, more, List.foldlM_cons, added, ok_bind, ih]

/-- Descriptions are added without a failure when all their packages are admitted. -/
theorem addAll_fst_eq_ok_iff (c : Catalog) (values : List Json) :
    (c.addAll values).1 = .ok () ↔
      values.map Manifest.package =
        (Call.admitted c.names (values.map Manifest.package)).map .ok := by
  induction values generalizing c with
  | nil => exact iff_of_true rfl rfl
  | cons value rest ih =>
    rw [List.map_cons]
    rcases c.admitted_cases (Manifest.package value) (rest.map Manifest.package) with
      ⟨failure, refused, none⟩ | ⟨package, decoded, added, more⟩
    · rw [addAll_cons_of_error refused, none]
      exact ⟨nofun, nofun⟩
    · have step : (Manifest.package value >>= c.add) = .ok (c.extended [package]) := by
        rw [decoded, ok_bind, added]
      rw [addAll_cons_of_ok step, more, decoded, List.map_cons, ih, List.cons.injEq,
        and_iff_right rfl]

/-- A call adds what is admitted of its offer, also when it fails. -/
theorem foldlM_offered (c : Catalog) (call : Call) :
    (Call.admitted c.names call.offered).foldlM add c = .ok (call.run c).2 := by
  cases call with
  | add package =>
    rcases c.admitted_cases (.ok package) [] with
      ⟨failure, refused, none⟩ | ⟨_, same, added, more⟩
    · rw [ok_bind] at refused
      rw [Call.offered, none, Call.run, refused]
      rfl
    · cases same
      rw [Call.offered, more, Call.run, List.foldlM_cons, added]
      rfl
  | manifest value =>
    rw [Call.offered, Call.run]
    split
    · next values listed =>
      rw [addManifest_eq_addAll listed]
      exact foldlM_admitted c values
    · next unlisted =>
      rw [addManifest_of_no_list unlisted]
      rfl

/-- A call succeeds exactly when everything it offers is added. -/
theorem run_fst_eq_ok_iff (c : Catalog) (call : Call) :
    (call.run c).1 = .ok () ↔ call.IsGranted c.names := by
  rw [Call.IsGranted]
  cases call with
  | add package =>
    rcases c.admitted_cases (.ok package) [] with
      ⟨failure, refused, none⟩ | ⟨_, same, added, more⟩
    · rw [ok_bind] at refused
      rw [Call.offered, none, Call.run, refused]
      exact ⟨nofun, nofun⟩
    · cases same
      rw [Call.offered, more, Call.run, added]
      exact iff_of_true rfl rfl
  | manifest value =>
    rw [Call.offered, Call.run]
    split
    · next values listed =>
      rw [addManifest_eq_addAll listed]
      exact addAll_fst_eq_ok_iff c values
    · next unlisted =>
      rw [addManifest_of_no_list unlisted]
      exact ⟨nofun, nofun⟩

/-! ## Any number of calls -/

/-- What calls add, they add one after the other. -/
theorem foldlM_additions (c : Catalog) (calls : List Call) :
    (Call.additions c.names calls).foldlM add c = .ok (c.after calls) := by
  induction calls generalizing c with
  | nil => rfl
  | cons call rest ih =>
    have first := foldlM_offered c call
    have grown := (foldlM_add_eq_ok_iff.mp first).2
    rw [Call.additions, List.foldlM_append, first, ok_bind, ← names_extended, ← grown, ih]
    rfl

/-! ## What a catalog tells of its packages -/

theorem Reachable.find?_packageOf_eq_some_iff_last (h : Reachable c) {id : ModuleId}
    {name : String} : c.packageOf.find? id = some name ↔
      ∃ before package after, c.packages = before ++ package :: after ∧
        package.lists id = true ∧ package.name = name ∧
          ∀ later ∈ after, later.lists id = false := by
  rw [h.find?_packageOf, Option.map_eq_some_iff]
  simp only [find?_reverse_eq_some_iff]
  constructor
  · rintro ⟨package, ⟨listed, before, after, split, none⟩, rfl⟩
    exact ⟨before, package, after, split, listed, rfl, none⟩
  · rintro ⟨before, package, after, split, listed, rfl, none⟩
    exact ⟨package, ⟨listed, before, after, split, none⟩, rfl⟩

theorem Reachable.mem_keys_packageOf_iff (h : Reachable c) {id : ModuleId} :
    id ∈ c.packageOf.keys ↔ ∃ package ∈ c.packages, package.lists id = true := by
  rw [Dictionary.mem_keys_iff]
  constructor
  · rintro ⟨name, found⟩
    obtain ⟨package, member, _, listed⟩ := h.exists_package found
    exact ⟨package, member, listed⟩
  · rintro ⟨package, member, listed⟩
    cases found : c.packageOf.find? id with
    | none => simp [h.find?_eq_none_iff.mp found package member] at listed
    | some name => exact ⟨name, rfl⟩

theorem Reachable.keys_packageOf_nodup (h : Reachable c) : c.packageOf.keys.Nodup := by
  induction h with
  | empty => exact List.nodup_nil
  | add _ added ih =>
    rw [(add_eq_ok_iff.mp added).2]
    exact Dictionary.keys_insertAll_nodup ih _

/-- A catalog that holds some packages, and what it tells about them and their modules. -/
structure Registers (c : Catalog) (added : List Package) : Prop where
  /-- The packages are the given ones, in this order. -/
  packages : c.packages = added
  /-- Each of them was added, without a failure, to those before it. -/
  inTurn : added.foldlM add {} = .ok c
  once : c.names.Nodup
  /-- A package is found under its own name. -/
  byName : ∀ package ∈ added,
    (c.packages.find? fun other => other.name == package.name) = some package
  /-- The modules with a package are those that some package lists. -/
  modules : ∀ id, id ∈ c.packageOf.keys ↔ ∃ package ∈ added, package.lists id = true
  /-- The package of a module is the last one that lists it. -/
  last : ∀ id name, c.packageOf.find? id = some name ↔
    ∃ before package after, added = before ++ package :: after ∧ package.lists id = true ∧
      package.name = name ∧ ∀ later ∈ after, later.lists id = false
  named : ∀ entry ∈ c.packageOf.entries, entry.2 ∈ c.names

/-- Packages that were added one after the other are what a catalog tells of. -/
theorem registers_of_foldlM (inTurn : added.foldlM add {} = .ok c) : c.Registers added := by
  have reachable : Reachable c := Reachable.empty.foldlM_add inTurn
  have packages : c.packages = added := by
    rw [(foldlM_add_eq_ok_iff.mp inTurn).2]
    rfl
  subst packages
  exact {
    packages := rfl
    inTurn
    once := reachable.names_nodup
    byName := by
      intro package member
      rw [← List.head?_filter, filter_key_eq_singleton reachable.names_nodup member]
      rfl
    modules := fun id => reachable.mem_keys_packageOf_iff
    last := fun id name => reachable.find?_packageOf_eq_some_iff_last
    named := by
      rintro ⟨id, name⟩ entered
      have found := Dictionary.find?_of_mem_entries reachable.keys_packageOf_nodup entered
      obtain ⟨package, member, rfl, _⟩ := reachable.exists_package found
      exact List.mem_map_of_mem member }

/-- Whatever calls a new catalog gets, in whatever order and with whatever failures, it holds the
packages that they add, and tells of these and their modules what it should. The next call succeeds
exactly when everything it offers is added. -/
theorem calls_registered (calls : List Call) :
    (after {} calls).Registers (Call.additions [] calls) ∧
      ∀ call : Call, (call.run (after {} calls)).1 = .ok () ↔
        call.IsGranted (after {} calls).names :=
  ⟨registers_of_foldlM (foldlM_additions {} calls), run_fst_eq_ok_iff (after {} calls)⟩

end Catalog

end MoveBindings
