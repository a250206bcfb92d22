import MoveBindings.Proofs.Declaration.Additions
import MoveBindings.Proofs.Project.FieldProjects

/-!
# Manifests that fail

A manifest that fails has not added half a package. It stops at the first
description that is refused. The catalog it leaves is the one that adding the
packages described before gives, so a package is there with all its modules or
not at all.
-/

namespace MoveBindings

/-- What the description of a package can fail with: a text is missing, a text does not spell a
type, or there is something else in the place of a list. -/
inductive Failure.OfDescription : Failure → Prop where
  | missing (key : String) (part : ManifestPart) : OfDescription (.manifest (.missing key part))
  | type (error : Tag.SyntaxError) : OfDescription (.tag error)
  | list : OfDescription .notAList

/-- What adding a manifest can fail with: there is no list of packages, or one of the descriptions
fails or gives the name of a package that there is already. -/
inductive Failure.OfManifest : Failure → Prop where
  | unlisted : OfManifest (.manifest .noPackages)
  | description {failure : Failure} (fails : failure.OfDescription) : OfManifest failure
  | twice (name : String) : OfManifest (.manifest (.declaredTwice name))

namespace Manifest

theorem required_fails (value : Json) (key : String) (part : ManifestPart) :
    FailsOnlyWith Failure.OfDescription (required value key part) := by
  intro failure fails
  unfold required at fails
  split at fails
  · split at fails
    · cases fails
      exact .missing key part
    · cases fails
  · cases fails
    exact .missing key part

theorem elements_fails (value : Json) (key : String) :
    FailsOnlyWith Failure.OfDescription (elements value key) := by
  intro failure fails
  unfold elements at fails
  split at fails <;> cases fails
  exact .list

theorem typeOf_fails (text : String) : FailsOnlyWith Failure.OfDescription (typeOf text) := by
  intro failure fails
  unfold typeOf at fails
  split at fails <;> cases fails
  exact .type _

theorem field_fails (id : ModuleId) (owner : String) (value : Json) :
    FailsOnlyWith Failure.OfDescription (field id owner value) := by
  refine .bind (required_fails _ _ _) fun name => ?_
  refine .bind (required_fails _ _ _) fun text => ?_
  exact .bind (typeOf_fails text) fun type => .ok _

theorem struct_fails (id : ModuleId) (value : Json) :
    FailsOnlyWith Failure.OfDescription (struct id value) := by
  refine .bind (required_fails _ _ _) fun name => ?_
  refine .bind (elements_fails _ _) fun items => ?_
  exact .bind (.mapM (field_fails id name) items) fun fields => .ok _

theorem module_fails (owner : String) (value : Json) :
    FailsOnlyWith Failure.OfDescription (module owner value) := by
  refine .bind (required_fails _ _ _) fun address => ?_
  refine .bind (required_fails _ _ _) fun name => ?_
  refine .bind (elements_fails _ _) fun items => ?_
  exact .bind (.mapM (struct_fails ⟨address, name⟩) items) fun structs => .ok _

theorem package_fails (value : Json) :
    FailsOnlyWith Failure.OfDescription (package value) := by
  refine .bind (required_fails _ _ _) fun name => ?_
  refine .bind (elements_fails _ _) fun items => ?_
  exact .bind (.mapM (module_fails name) items) fun modules => .ok _

end Manifest

namespace Catalog

variable {c left larger : Catalog} {manifest : Json} {values : List Json} {failure : Failure}

theorem Refuses.ofManifest {value : Json} (refused : c.Refuses value failure) :
    failure.OfManifest := by
  cases refused with
  | undecoded fails => exact .description (Manifest.package_fails value failure fails)
  | taken decoded known => exact .twice _

theorem ofManifest_of_addManifest (fails : c.addManifest manifest = (.error failure, left)) :
    failure.OfManifest := by
  by_cases listed : ∃ values, manifest.member? "packages" = some (.array values)
  · obtain ⟨values, listed⟩ := listed
    rw [addManifest_eq_addAll listed] at fails
    obtain ⟨_, value, _, _, _, refused⟩ := addAll_eq_error_iff.mp fails
    exact refused.ofManifest
  · rw [addManifest_of_no_list (not_exists.mp listed)] at fails
    cases fails
    exact .unlisted

/-- A manifest that fails adds whole packages only. One with a list of packages fails exactly when
there is a description that is refused: those before it declare packages, which have been added
one after the other, and nothing else has changed. A value without such a list fails and changes
nothing. The failure is about the manifest in each case. Where nothing fails, a list of
descriptions can be cut in two, and each part be added by a manifest of its own. -/
theorem failed_manifest_adds_whole_packages (c : Catalog) :
    (∀ manifest values failure left, manifest.member? "packages" = some (.array values) →
      (c.addManifest manifest = (.error failure, left) ↔
        ∃ before value after packages, values = before ++ value :: after ∧
          before.mapM Manifest.package = .ok packages ∧ packages.foldlM add c = .ok left ∧
          left = c.extended packages ∧ left.Refuses value failure)) ∧
    (∀ manifest, (∀ values, manifest.member? "packages" ≠ some (.array values)) →
      c.addManifest manifest = (.error (.manifest .noPackages), c)) ∧
    (∀ manifest failure left, c.addManifest manifest = (.error failure, left) →
      failure.OfManifest) ∧
    ∀ whole first second firstValues secondValues larger,
      first.member? "packages" = some (.array firstValues) →
      second.member? "packages" = some (.array secondValues) →
      whole.member? "packages" = some (.array (firstValues ++ secondValues)) →
      (c.addManifest whole = (.ok (), larger) ↔
        ∃ middle, c.addManifest first = (.ok (), middle) ∧
          middle.addManifest second = (.ok (), larger)) := by
  refine ⟨?_, fun manifest => addManifest_of_no_list,
    fun manifest failure left => ofManifest_of_addManifest, ?_⟩
  · intro manifest values failure left listed
    rw [addManifest_eq_addAll listed, addAll_eq_error_iff]
    constructor
    · rintro ⟨before, value, after, rfl, earlier, refused⟩
      obtain ⟨packages, decoded, added⟩ := addAll_eq_ok_iff.mp earlier
      have grown := (foldlM_add_eq_ok_iff.mp added).2
      exact ⟨before, value, after, packages, rfl, decoded, added, grown, refused⟩
    · rintro ⟨before, value, after, packages, rfl, decoded, added, _, refused⟩
      exact ⟨before, value, after, rfl, addAll_eq_ok_iff.mpr ⟨packages, decoded, added⟩, refused⟩
  · intro whole first second firstValues secondValues larger one two both
    simp only [addManifest_eq_addAll one, addManifest_eq_addAll two, addManifest_eq_addAll both]
    exact addAll_append_eq_ok_iff

/-- The catalog holds a package `Std` when it is given a manifest that describes a package `Shop`,
a second package `Std` and, in the third place, nothing. -/
theorem failed_manifest_adds_whole_packages_shop :
    let catalog places := (Project.fieldProject [] places).catalog
    let manifest values := Json.object [("packages", .array values)]
    let describe := Project.fieldDescription []
    (catalog [("Std", "Core")]).addManifest
        (manifest [describe ("Shop", "Market"), describe ("Std", "Other"), .null]) =
      (.error (.manifest (.declaredTwice "Std")), catalog [("Std", "Core"), ("Shop", "Market")]) ∧
    (catalog [("Std", "Core")]).addManifest .null =
      (.error (.manifest .noPackages), catalog [("Std", "Core")]) ∧
    Failure.OfManifest (.manifest (.declaredTwice "Std")) ∧
    (catalog []).addManifest (manifest [describe ("Std", "Core"), describe ("Shop", "Market")]) =
      (.ok (), catalog [("Std", "Core"), ("Shop", "Market")]) := by
  intro catalog manifest describe
  have decoded (places : List (String × String))
      (named : ∀ place ∈ places, place.1 ≠ "" ∧ place.2 ≠ "") :
      (places.map describe).mapM Manifest.package =
        .ok (places.map (Project.fieldPackage [])) :=
    Project.mapM_fieldDescription (by simp) named
  have added (before places : List (String × String))
      (distinct : ((before ++ places).map Prod.fst).Nodup) :
      (places.map (Project.fieldPackage [])).foldlM add (catalog before) =
        .ok (catalog (before ++ places)) :=
    Project.foldlM_fieldPackage distinct
  obtain ⟨stops, unlisted, kinds, parts⟩ :=
    failed_manifest_adds_whole_packages (catalog [("Std", "Core")])
  have shop := decoded [("Shop", "Market")] (by decide)
  have shopAdded := added [("Std", "Core")] [("Shop", "Market")] (by decide)
  have other : Manifest.package (describe ("Std", "Other")) =
      .ok (Project.fieldPackage [] ("Std", "Other")) :=
    Project.package_fieldDescription (by simp) (by decide)
  have twice := (stops (manifest [describe ("Shop", "Market"), describe ("Std", "Other"), .null])
    _ _ _ rfl).mpr ⟨[describe ("Shop", "Market")], _, [.null], _, rfl, shop, shopAdded,
      (foldlM_add_eq_ok_iff.mp shopAdded).2, .taken other (by decide)⟩
  refine ⟨twice, unlisted .null nofun, kinds _ _ _ twice, ?_⟩
  have one : (catalog []).addManifest (manifest [describe ("Std", "Core")]) =
      (.ok (), catalog [("Std", "Core")]) :=
    addAll_eq_ok_iff.mpr ⟨_, decoded [("Std", "Core")] (by decide),
      added [] [("Std", "Core")] (by decide)⟩
  have two : (catalog [("Std", "Core")]).addManifest (manifest [describe ("Shop", "Market")]) =
      (.ok (), catalog [("Std", "Core"), ("Shop", "Market")]) :=
    addAll_eq_ok_iff.mpr ⟨_, shop, shopAdded⟩
  exact ((failed_manifest_adds_whole_packages (catalog [])).2.2.2 _ _ _ _ _ _ rfl rfl rfl).mpr
    ⟨_, one, two⟩

end Catalog

end MoveBindings
