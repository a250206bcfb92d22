import Mathlib.Data.List.Forall2
import MoveBindings.Emission.Basic

/-!
# Outcomes of sequences

A sequence of steps succeeds exactly when each of its steps does, and a list is
worked through successfully exactly when every element is. The results then
correspond to the elements one by one. What a step of generation finds has no
influence on its outcome.
-/

namespace MoveBindings

section Except

variable {ε α β : Type}

/-- Both steps of a sequence that succeeds have succeeded. -/
theorem exists_of_bind_eq_ok {first : Except ε α} {next : α → Except ε β} {b : β}
    (h : (first >>= next) = .ok b) : ∃ a, first = .ok a ∧ next a = .ok b := by
  cases first with
  | error problem => cases h
  | ok a => exact ⟨a, rfl, h⟩

/-- A sequence succeeds exactly when both of its steps do. -/
theorem bind_eq_ok_iff {first : Except ε α} {next : α → Except ε β} {b : β} :
    (first >>= next) = .ok b ↔ ∃ a, first = .ok a ∧ next a = .ok b := by
  constructor
  · exact exists_of_bind_eq_ok
  · rintro ⟨a, rfl, h⟩
    exact h

/-- A computation that is found to succeed has a result. -/
theorem exists_of_isOk {outcome : Except ε α} (succeeds : outcome.isOk = true) :
    ∃ result, outcome = .ok result := by
  cases outcome with
  | error problem => cases succeeds
  | ok result => exact ⟨result, rfl⟩

theorem ok_bind (a : α) (next : α → Except ε β) : (Except.ok a >>= next) = next a := rfl

/-- A list is worked through when all its elements are, one result for each. -/
theorem mapM_eq_ok_iff {f : α → Except ε β} {elements : List α} {results : List β} :
    elements.mapM f = .ok results ↔
      List.Forall₂ (fun element result => f element = .ok result) elements results := by
  induction elements generalizing results with
  | nil =>
    rw [List.mapM_nil, List.forall₂_nil_left_iff]
    constructor
    · intro h
      cases h
      rfl
    · rintro rfl
      rfl
  | cons element rest ih =>
    rw [List.mapM_cons, List.forall₂_cons_left_iff]
    constructor
    · intro h
      obtain ⟨result, first, h⟩ := exists_of_bind_eq_ok h
      obtain ⟨others, later, h⟩ := exists_of_bind_eq_ok h
      cases h
      exact ⟨result, others, first, ih.mp later, rfl⟩
    · rintro ⟨result, others, first, later, rfl⟩
      rw [first, ok_bind, ih.mpr later]
      rfl

/-- Lists that are worked through one after the other are worked through as one list. -/
theorem mapM_flatMap {γ : Type} (f : β → Except ε γ) (pieces : α → List β) (elements : List α) :
    (elements.flatMap pieces).mapM f = do
      return (← elements.mapM fun element => (pieces element).mapM f).flatten := by
  induction elements with
  | nil => rfl
  | cons element rest ih =>
    rw [List.flatMap_cons, List.mapM_append, ih, List.mapM_cons]
    simp only [bind_assoc, pure_bind, List.flatten_cons]

end Except

section Correspondence

variable {α β γ : Type} {Related : α → β → Prop} {elements : List α} {results : List β}

/-- Every element has its result. -/
theorem exists_result (h : List.Forall₂ Related elements results) {element : α}
    (found : element ∈ elements) : ∃ result ∈ results, Related element result := by
  induction h with
  | nil => cases found
  | cons first _ ih =>
    rcases List.mem_cons.mp found with rfl | later
    · exact ⟨_, List.mem_cons_self, first⟩
    · obtain ⟨result, member, related⟩ := ih later
      exact ⟨result, List.mem_cons_of_mem _ member, related⟩

/-- Every result belongs to an element. -/
theorem exists_element (h : List.Forall₂ Related elements results) {result : β}
    (found : result ∈ results) : ∃ element ∈ elements, Related element result :=
  exists_result h.flip found

/-- Elements have a list of results when each of them has a result. -/
theorem exists_forall₂_iff : (∃ results, List.Forall₂ Related elements results) ↔
    ∀ element ∈ elements, ∃ result, Related element result := by
  constructor
  · rintro ⟨results, each⟩ element member
    obtain ⟨result, _, related⟩ := exists_result each member
    exact ⟨result, related⟩
  · intro each
    induction elements with
    | nil => exact ⟨[], .nil⟩
    | cons element rest ih =>
      obtain ⟨result, related⟩ := each element List.mem_cons_self
      obtain ⟨results, later⟩ := ih fun other member => each other (List.mem_cons_of_mem _ member)
      exact ⟨result :: results, .cons related later⟩

/-- In a correspondence of lists only elements of the first are related. -/
theorem related_mem (h : List.Forall₂ Related elements results) :
    List.Forall₂ (fun element result => element ∈ elements ∧ Related element result)
      elements results :=
  (List.forall₂_and_left elements results).mpr ⟨fun _ member => member, h⟩

/-- Correspondences of lists can be put together. -/
theorem related_trans {Later : β → γ → Prop} {Both : α → γ → Prop} {outputs : List γ}
    (h : List.Forall₂ Related elements results) (later : List.Forall₂ Later results outputs)
    (both : ∀ element result output, Related element result → Later result output →
      Both element output) : List.Forall₂ Both elements outputs := by
  induction h generalizing outputs with
  | nil =>
    cases later
    exact .nil
  | cons first _ ih =>
    cases later with
    | cons second others => exact .cons (both _ _ _ first second) (ih others)

/-- What every result has in common with its element, all have in common in order. -/
theorem map_eq_map {f : α → γ} {g : β → γ}
    (h : List.Forall₂ (fun element result => g result = f element) elements results) :
    results.map g = elements.map f := by
  induction h with
  | nil => rfl
  | cons first _ ih => rw [List.map_cons, List.map_cons, first, ih]

/-- Results that are functions of their elements are so in order. -/
theorem eq_map {f : α → β}
    (h : List.Forall₂ (fun element result => result = f element) elements results) :
    results = elements.map f := by
  induction h with
  | nil => rfl
  | cons first _ ih => rw [List.map_cons, first, ih]

/-- The same for lists of results that are put together. -/
theorem map_flatten_eq_flatMap {pieces : List (List β)} {f : α → List γ} {g : β → γ}
    (h : List.Forall₂ (fun element piece => piece.map g = f element) elements pieces) :
    pieces.flatten.map g = elements.flatMap f := by
  induction h with
  | nil => rfl
  | cons first _ ih => rw [List.flatten_cons, List.map_append, List.flatMap_cons, first, ih]

end Correspondence

namespace Emission

variable {α β : Type}

@[simp] theorem outcome_pure (a : α) : (pure a : Emission α).outcome = .ok a := rfl

@[simp] theorem outcome_ofExcept (outcome : Except Failure α) :
    (ofExcept outcome).outcome = outcome := rfl

@[simp] theorem outcome_note (d : Diagnostic) : (note d).outcome = .ok () := rfl

@[simp] theorem outcome_map (f : α → β) (step : Emission α) :
    (f <$> step).outcome = f <$> step.outcome := by
  obtain ⟨found, outcome⟩ := step
  cases outcome <;> rfl

/-- The outcome of working through a list depends on the outcomes only. -/
theorem outcome_mapM (f : α → Emission β) (elements : List α) :
    (elements.mapM f).outcome = elements.mapM fun element => (f element).outcome := by
  induction elements with
  | nil => rfl
  | cons element rest ih => simp [List.mapM_cons, outcome_bind, ih]

/-- A list is worked through when all its elements are, one result for each. -/
theorem outcome_mapM_eq_ok_iff {f : α → Emission β} {elements : List α} {results : List β} :
    (elements.mapM f).outcome = .ok results ↔
      List.Forall₂ (fun element result => (f element).outcome = .ok result) elements results := by
  rw [outcome_mapM, mapM_eq_ok_iff]

/-- Steps that cannot fail are all taken. -/
theorem outcome_mapM_of_ok {f : α → Emission β} {g : α → β}
    (succeeds : ∀ element, (f element).outcome = .ok (g element)) (elements : List α) :
    (elements.mapM f).outcome = .ok (elements.map g) := by
  rw [outcome_mapM_eq_ok_iff, List.forall₂_map_right_iff, List.forall₂_same]
  exact fun element _ => succeeds element

end Emission

end MoveBindings
