import MoveBindings.Proofs.Outcomes

/-!
# The failure that ends a sequence

A sequence of steps fails with the failure of its first step that fails. In a
list that is worked through this is an element before which all others succeed,
so what is reported does not depend on the elements after it.
-/

namespace MoveBindings

section Except

variable {ε α β : Type} {kind : ε → Prop}

theorem error_bind (problem : ε) (next : α → Except ε β) :
    (Except.error problem >>= next) = .error problem := rfl

/-- A sequence fails in its first step, or after it in the second. -/
theorem bind_eq_error_iff {first : Except ε α} {next : α → Except ε β} {problem : ε} :
    (first >>= next) = .error problem ↔
      first = .error problem ∨ ∃ a, first = .ok a ∧ next a = .error problem := by
  cases first with
  | error other =>
    rw [error_bind]
    constructor
    · intro h
      cases h
      exact .inl rfl
    · rintro (h | ⟨a, impossible, _⟩)
      · cases h
        rfl
      · cases impossible
  | ok a =>
    rw [ok_bind]
    constructor
    · intro h
      exact .inr ⟨a, rfl, h⟩
    · rintro (impossible | ⟨_, same, h⟩)
      · cases impossible
      · cases same
        exact h

theorem map_eq_error_iff {f : α → β} {outcome : Except ε α} {problem : ε} :
    f <$> outcome = .error problem ↔ outcome = .error problem := by
  cases outcome with
  | error other => exact Iff.of_eq (by simp [Functor.map, Except.map])
  | ok a => exact ⟨nofun, nofun⟩

/-- A list is not worked through when some element fails and all before it succeed. -/
theorem mapM_eq_error_iff {f : α → Except ε β} {elements : List α} {problem : ε} :
    elements.mapM f = .error problem ↔
      ∃ before element after, elements = before ++ element :: after ∧
        (∀ earlier ∈ before, ∃ result, f earlier = .ok result) ∧ f element = .error problem := by
  constructor
  · intro h
    induction elements with
    | nil => cases h
    | cons element rest ih =>
      rw [List.mapM_cons, bind_eq_error_iff] at h
      rcases h with here | ⟨result, succeeds, h⟩
      · exact ⟨[], element, rest, rfl, by simp, here⟩
      · rcases bind_eq_error_iff.mp h with later | ⟨_, _, impossible⟩
        · obtain ⟨before, failing, after, rfl, earlier, fails⟩ := ih later
          refine ⟨element :: before, failing, after, rfl, ?_, fails⟩
          intro other member
          rcases List.mem_cons.mp member with rfl | member
          · exact ⟨result, succeeds⟩
          · exact earlier other member
        · cases impossible
  · rintro ⟨before, element, after, rfl, earlier, fails⟩
    induction before with
    | nil => rw [List.nil_append, List.mapM_cons, fails]; rfl
    | cons first before ih =>
      obtain ⟨result, succeeds⟩ := earlier first List.mem_cons_self
      have later := ih fun other member => earlier other (List.mem_cons_of_mem first member)
      rw [List.cons_append, List.mapM_cons, succeeds, ok_bind, later]
      rfl

/-- What does not fail succeeds. -/
theorem exists_ok_iff {outcome : Except ε α} :
    (∃ a, outcome = .ok a) ↔ ∀ problem, outcome ≠ .error problem := by
  cases outcome with
  | error problem =>
    constructor
    · rintro ⟨a, impossible⟩
      cases impossible
    · intro none
      exact absurd rfl (none problem)
  | ok a =>
    constructor
    · exact fun _ => nofun
    · exact fun _ => ⟨a, rfl⟩

/-- Of two computations that fail alike one succeeds when the other does. -/
theorem exists_ok_congr {first : Except ε α} {second : Except ε β}
    (alike : ∀ problem, first = .error problem ↔ second = .error problem) :
    (∃ a, first = .ok a) ↔ ∃ b, second = .ok b := by
  simp only [exists_ok_iff, ne_eq, alike]

/-- A list is worked through when each of its elements is. -/
theorem exists_mapM_eq_ok_iff {f : α → Except ε β} {elements : List α} :
    (∃ results, elements.mapM f = .ok results) ↔
      ∀ element ∈ elements, ∃ result, f element = .ok result := by
  simp only [mapM_eq_ok_iff, exists_forall₂_iff]

/-- Two ways to work through a list fail alike when they do so for every element. -/
theorem mapM_eq_error_congr {γ : Type} {f : α → Except ε β} {g : α → Except ε γ}
    (alike : ∀ element problem, f element = .error problem ↔ g element = .error problem)
    {elements : List α} {problem : ε} :
    elements.mapM f = .error problem ↔ elements.mapM g = .error problem := by
  have succeeds (element : α) : (∃ result, f element = .ok result) ↔
      ∃ result, g element = .ok result := exists_ok_congr (alike element)
  simp only [mapM_eq_error_iff, succeeds, alike]

/-- All failures of a computation are of one kind. -/
def FailsOnlyWith (kind : ε → Prop) (outcome : Except ε α) : Prop :=
  ∀ problem, outcome = .error problem → kind problem

theorem FailsOnlyWith.ok (a : α) : FailsOnlyWith kind (.ok a : Except ε α) := nofun

theorem FailsOnlyWith.bind {first : Except ε α} {next : α → Except ε β}
    (earlier : FailsOnlyWith kind first) (later : ∀ a, FailsOnlyWith kind (next a)) :
    FailsOnlyWith kind (first >>= next) := by
  intro problem fails
  rcases bind_eq_error_iff.mp fails with here | ⟨a, _, there⟩
  · exact earlier problem here
  · exact later a problem there

theorem FailsOnlyWith.mapM {f : α → Except ε β} (each : ∀ element, FailsOnlyWith kind (f element))
    (elements : List α) : FailsOnlyWith kind (elements.mapM f) := by
  intro problem fails
  obtain ⟨_, element, _, _, _, there⟩ := mapM_eq_error_iff.mp fails
  exact each element problem there

end Except

namespace Emission

variable {α β : Type}

/-- A sequence of emissions fails in its first step, or after it in the second. -/
theorem outcome_bind_eq_error_iff {first : Emission α} {next : α → Emission β}
    {failure : Failure} :
    (first >>= next).outcome = .error failure ↔
      first.outcome = .error failure ∨
        ∃ a, first.outcome = .ok a ∧ (next a).outcome = .error failure := by
  rw [outcome_bind, bind_eq_error_iff]

/-- A list is not worked through when some element fails and all before it succeed. -/
theorem outcome_mapM_eq_error_iff {f : α → Emission β} {elements : List α} {failure : Failure} :
    (elements.mapM f).outcome = .error failure ↔
      ∃ before element after, elements = before ++ element :: after ∧
        (∀ earlier ∈ before, ∃ result, (f earlier).outcome = .ok result) ∧
        (f element).outcome = .error failure := by
  rw [outcome_mapM, mapM_eq_error_iff]

end Emission

end MoveBindings
