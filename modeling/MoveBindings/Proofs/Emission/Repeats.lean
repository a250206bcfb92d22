import MoveBindings.Proofs.Emission.Indexes
import MoveBindings.Proofs.FirstFailure

/-!
# What is reported when names repeat

Children of an index and aliases of a file must be different. The name that is
reported is the first one that has occurred before: all names up to it are
different, and it is one of them.
-/

namespace MoveBindings

/-- The first of some names that has occurred before. -/
def FirstRepeated (names : List String) (name : String) : Prop :=
  ∃ before after, names = before ++ name :: after ∧ name ∈ before ∧ before.Nodup

theorem FirstRepeated.not_nodup {names : List String} {name : String}
    (h : FirstRepeated names name) : ¬names.Nodup := by
  obtain ⟨before, after, rfl, again, _⟩ := h
  intro distinct
  exact (List.nodup_append.mp distinct).2.2 name again name List.mem_cons_self rfl

namespace IndexFile

/-- A name is found when it occurs among those seen or before itself, and nothing before it does. -/
theorem firstRepeated?_eq_some_iff {seen names : List String} {name : String} :
    firstRepeated? seen names = some name ↔
      ∃ before after, names = before ++ name :: after ∧ (name ∈ seen ∨ name ∈ before) ∧
        before.Nodup ∧ ∀ earlier ∈ before, earlier ∉ seen := by
  induction names generalizing seen with
  | nil => simp [firstRepeated?]
  | cons first rest ih =>
    by_cases known : first ∈ seen
    · rw [firstRepeated?, if_pos known, Option.some_inj]
      constructor
      · rintro rfl
        exact ⟨[], rest, rfl, .inl known, List.nodup_nil, by simp⟩
      · rintro ⟨before, after, shape, _, _, fresh⟩
        cases before with
        | nil =>
          cases shape
          rfl
        | cons earlier before =>
          cases shape
          exact absurd known (fresh first List.mem_cons_self)
    · rw [firstRepeated?, if_neg known, ih]
      constructor
      · rintro ⟨before, after, rfl, again, distinct, fresh⟩
        refine ⟨first :: before, after, rfl, ?_, List.nodup_cons.mpr ⟨?_, distinct⟩, ?_⟩
        · rcases again with again | again
          · rcases List.mem_cons.mp again with rfl | again
            · exact .inr List.mem_cons_self
            · exact .inl again
          · exact .inr (List.mem_cons_of_mem first again)
        · intro later
          exact fresh first later List.mem_cons_self
        · intro earlier member
          rcases List.mem_cons.mp member with rfl | member
          · exact known
          · exact fun seenBefore => fresh earlier member (List.mem_cons_of_mem first seenBefore)
      · rintro ⟨before, after, shape, again, distinct, fresh⟩
        cases before with
        | nil =>
          cases shape
          exact absurd (again.resolve_right (List.not_mem_nil)) known
        | cons earlier before =>
          cases shape
          obtain ⟨once, distinct⟩ := List.nodup_cons.mp distinct
          refine ⟨before, after, rfl, ?_, distinct, ?_⟩
          · rcases again with again | again
            · exact .inl (List.mem_cons_of_mem first again)
            · rcases List.mem_cons.mp again with rfl | again
              · exact .inl List.mem_cons_self
              · exact .inr again
          · intro other member seenBefore
            rcases List.mem_cons.mp seenBefore with rfl | seenBefore
            · exact once member
            · exact fresh other (List.mem_cons_of_mem first member) seenBefore

/-- With nothing seen, the name that is found is the first one that repeats. -/
theorem firstRepeated?_nil_eq_some_iff {names : List String} {name : String} :
    firstRepeated? [] names = some name ↔ FirstRepeated names name := by
  simp only [firstRepeated?_eq_some_iff, FirstRepeated, List.not_mem_nil, false_or,
    not_false_eq_true, implies_true, and_true]

/-- Names are refused for the first one that repeats. -/
theorem distinct_eq_error_iff {kind parent : String} {names : List String} {failure : Failure} :
    distinct kind parent names = .error failure ↔
      ∃ name, FirstRepeated names name ∧ failure = .duplicate ⟨kind, name, parent⟩ := by
  simp only [← firstRepeated?_nil_eq_some_iff]
  unfold distinct
  cases firstRepeated? [] names with
  | none => simp
  | some name => simp [eq_comm]

end IndexFile

/-- There is one first name that repeats. -/
theorem FirstRepeated.unique {names : List String} {name other : String}
    (h : FirstRepeated names name) (again : FirstRepeated names other) : name = other := by
  rw [← IndexFile.firstRepeated?_nil_eq_some_iff] at h again
  exact Option.some_inj.mp (h.symm.trans again)

/-- Names of which one occurs twice have a first one that repeats. -/
theorem exists_firstRepeated {names : List String} (h : ¬names.Nodup) :
    ∃ name, FirstRepeated names name := by
  simp only [← IndexFile.firstRepeated?_nil_eq_some_iff, ← Option.isSome_iff_exists]
  rw [← Option.ne_none_iff_isSome, Ne, IndexFile.firstRepeated?_eq_none_iff]
  exact fun unseen => h unseen.1

/-- Different names that do not occur later may be left out at the front. -/
theorem firstRepeated_append_iff {first second : List String} (distinct : first.Nodup)
    (apart : ∀ name ∈ first, name ∉ second) {name : String} :
    FirstRepeated (first ++ second) name ↔ FirstRepeated second name := by
  have longer {name : String} (h : FirstRepeated second name) :
      FirstRepeated (first ++ second) name := by
    obtain ⟨before, after, rfl, again, once⟩ := h
    refine ⟨first ++ before, after, by simp, List.mem_append_right first again, ?_⟩
    refine List.nodup_append.mpr ⟨distinct, once, ?_⟩
    rintro other inFirst _ inBefore rfl
    exact apart other inFirst (List.mem_append_left _ inBefore)
  constructor
  · intro h
    have repeats : ¬second.Nodup := by
      intro once
      apply h.not_nodup
      refine List.nodup_append.mpr ⟨distinct, once, ?_⟩
      rintro other inFirst _ inSecond rfl
      exact apart other inFirst inSecond
    obtain ⟨other, inSecond⟩ := exists_firstRepeated repeats
    rw [h.unique (longer inSecond)]
    exact inSecond
  · exact longer

namespace Environment

open IndexFile

variable (env : Environment)

/-- The index of a package is refused for a repeated module, or else for a repeated file. -/
theorem packageIndex_eq_error_iff {package : String} {modules : List ModuleId}
    {companions : List String} {failure : Failure} :
    (env.packageIndex package modules companions).outcome = .error failure ↔
      (∃ name, FirstRepeated (modules.map ModuleId.name) name ∧
        failure = .duplicate ⟨"module", name, package⟩) ∨
      (modules.map ModuleId.name).Nodup ∧
        ∃ stem, FirstRepeated companions stem ∧ failure = .duplicate ⟨"file", stem, package⟩ := by
  have children := Emission.outcome_mapM_of_ok (env.outcome_moduleChild (packagePath package))
    (modules.map ModuleId.name)
  have others := Emission.outcome_mapM_of_ok (env.outcome_companionChild (packagePath package))
    companions
  simp only [packageIndex, Emission.outcome_bind_eq_error_iff, Emission.outcome_ofExcept,
    distinct_eq_error_iff, distinct_eq_ok_iff, children, others, Emission.outcome_pure]
  simp

end Environment

end MoveBindings
