import MoveBindings.Proofs.Catalog
import MoveBindings.Proofs.Tag.RoundTrip

/-!
# What manifests declare

A catalog that was filled by manifests alone holds no arbitrary declarations:
every struct has a name, and every type was read from a text and so is well
formed. This also holds of what a faulty manifest leaves behind.
-/

namespace MoveBindings

namespace Tag

/-- Only word characters occur in a word. -/
theorem IsWord.notMem {text : String} (h : IsWord text) {c : Char}
    (other : Text.isWordChar c = false) : c ∉ text.toList := by
  intro found
  have word := h.2 c found
  rw [other] at word
  cases word

theorem IsWord.ne_empty {text : String} (h : IsWord text) : text ≠ "" :=
  fun empty => h.1 (by simp [empty])

/-- The name of a struct in a well-formed tag is read back from its text. -/
theorem WellFormed.read_name {name : QualifiedName} {params : List Tag}
    (h : (Tag.struct name params).WellFormed) : QualifiedName.read name.text = .ok name := by
  cases h with
  | struct address _ _ module last _ =>
    have colon : Text.isWordChar ':' = false := by decide
    exact QualifiedName.read_text ⟨address.ne_empty, address.notMem colon⟩
      ⟨module.ne_empty, module.notMem colon⟩ ⟨last.ne_empty, last.notMem colon⟩

end Tag

/-- Declarations as manifests give them: structs have names, and types are well formed. -/
structure Module.Described (module : Module) : Prop where
  named : ∀ struct ∈ module.structs, struct.name ≠ ""
  typed : ∀ struct ∈ module.structs, ∀ field ∈ struct.fields, field.type.WellFormed

namespace Manifest

theorem ne_empty_of_required {value : Json} {key text : String} {part : ManifestPart}
    (h : required value key part = .ok text) : text ≠ "" := by
  unfold required at h
  split at h
  · split at h
    · cases h
    · next nonempty =>
      cases h
      exact nonempty
  · cases h

/-- The type of a field was read from a text. -/
theorem wellFormed_of_typeOf {text : String} {type : Tag} (h : typeOf text = .ok type) :
    type.WellFormed := by
  unfold typeOf at h
  split at h
  · next read =>
    cases h
    exact Tag.wellFormed_of_read read
  · cases h

theorem wellFormed_of_field {id : ModuleId} {owner : String} {value : Json} {result : Field}
    (h : field id owner value = .ok result) : result.type.WellFormed := by
  obtain ⟨name, _, h⟩ := exists_of_bind_eq_ok h
  obtain ⟨text, _, h⟩ := exists_of_bind_eq_ok h
  obtain ⟨type, read, h⟩ := exists_of_bind_eq_ok h
  cases h
  exact wellFormed_of_typeOf read

theorem of_struct {id : ModuleId} {value : Json} {result : Struct}
    (h : struct id value = .ok result) :
    result.name ≠ "" ∧ ∀ field ∈ result.fields, field.type.WellFormed := by
  obtain ⟨name, named, h⟩ := exists_of_bind_eq_ok h
  obtain ⟨items, _, h⟩ := exists_of_bind_eq_ok h
  obtain ⟨fields, each, h⟩ := exists_of_bind_eq_ok h
  cases h
  refine ⟨ne_empty_of_required named, ?_⟩
  intro field member
  obtain ⟨item, _, made⟩ := exists_element (mapM_eq_ok_iff.mp each) member
  exact wellFormed_of_field made

theorem described_of_module {owner : String} {value : Json} {result : Module}
    (h : module owner value = .ok result) : result.Described := by
  obtain ⟨address, _, h⟩ := exists_of_bind_eq_ok h
  obtain ⟨name, _, h⟩ := exists_of_bind_eq_ok h
  obtain ⟨items, _, h⟩ := exists_of_bind_eq_ok h
  obtain ⟨structs, each, h⟩ := exists_of_bind_eq_ok h
  cases h
  constructor
  · intro struct member
    obtain ⟨item, _, made⟩ := exists_element (mapM_eq_ok_iff.mp each) member
    exact (of_struct made).1
  · intro struct member
    obtain ⟨item, _, made⟩ := exists_element (mapM_eq_ok_iff.mp each) member
    exact (of_struct made).2

theorem described_of_package {value : Json} {result : Package} (h : package value = .ok result) :
    ∀ module ∈ result.modules, module.Described := by
  obtain ⟨name, _, h⟩ := exists_of_bind_eq_ok h
  obtain ⟨items, _, h⟩ := exists_of_bind_eq_ok h
  obtain ⟨modules, each, h⟩ := exists_of_bind_eq_ok h
  cases h
  intro module member
  obtain ⟨item, _, made⟩ := exists_element (mapM_eq_ok_iff.mp each) member
  exact described_of_module made

end Manifest

namespace Catalog

/-- The catalogs that come about by adding manifests, faulty ones included. -/
inductive Discovered : Catalog → Prop where
  | empty : Discovered {}
  | manifest {c : Catalog} (earlier : Discovered c) (manifest : Json) :
      Discovered (c.addManifest manifest).2

/-- All declarations of a catalog are such as manifests give. -/
def Described (c : Catalog) : Prop :=
  ∀ package ∈ c.packages, ∀ module ∈ package.modules, module.Described

variable {c : Catalog}

theorem Discovered.reachable (h : Discovered c) : Reachable c := by
  induction h with
  | empty => exact .empty
  | manifest _ manifest ih => exact ih.addManifest manifest

theorem Described.addAll (h : c.Described) (values : List Json) :
    (c.addAll values).2.Described := by
  induction values generalizing c with
  | nil => exact h
  | cons value rest ih =>
    cases step : Manifest.package value >>= c.add with
    | error failure => rwa [addAll_cons_of_error step]
    | ok extended =>
      obtain ⟨package, made, added⟩ := exists_of_bind_eq_ok step
      rw [addAll_cons_of_ok step]
      apply ih
      intro other member
      rw [(packages_of_add added).2, List.mem_append, List.mem_singleton] at member
      rcases member with earlier | rfl
      · exact h other earlier
      · exact Manifest.described_of_package made

/-- What manifests have declared is described. -/
theorem Discovered.described (h : Discovered c) : c.Described := by
  induction h with
  | empty =>
    intro package member
    cases member
  | @manifest c _ manifest ih =>
    unfold Catalog.addManifest
    split
    · exact ih.addAll _
    · exact ih

end Catalog

end MoveBindings
