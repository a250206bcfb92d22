import Mathlib.Data.List.FinRange
import Mathlib.Data.List.OfFn
import Mathlib.Logic.Equiv.Fin.Basic

/-!
# Lists whose elements change places

A permutation of places turns a list into another one of the same elements.
What is taken from the elements one by one changes places with them. Two lists
that follow one another change places together when each does so by itself.
-/

namespace MoveBindings

variable {α β : Type} {n m : Nat}

/-- A list, and what it becomes when its elements change places: at each place then stands the
element of the place that the permutation gives. -/
inductive PermutedBy (order : Equiv.Perm (Fin n)) : List α → List α → Prop where
  | ofFn (element : Fin n → α) :
      PermutedBy order (List.ofFn element) (List.ofFn (element ∘ order))

/-- Two permutations as one: of the first places, and of the places after them. -/
def sideBySide (order : Equiv.Perm (Fin n)) (later : Equiv.Perm (Fin m)) :
    Equiv.Perm (Fin (n + m)) :=
  finSumFinEquiv.permCongr (order.sumCongr later)

theorem append_comp_sideBySide (order : Equiv.Perm (Fin n)) (later : Equiv.Perm (Fin m))
    (first : Fin n → α) (second : Fin m → α) :
    Fin.append first second ∘ sideBySide order later =
      Fin.append (first ∘ order) (second ∘ later) := by
  funext place
  refine Fin.addCases (fun place => ?_) (fun place => ?_) place <;>
    simp [sideBySide, Equiv.permCongr_apply]

namespace PermutedBy

variable {order : Equiv.Perm (Fin n)} {before after : List α}

theorem map (h : PermutedBy order before after) (f : α → β) :
    PermutedBy order (before.map f) (after.map f) := by
  obtain ⟨element⟩ := h
  rw [List.map_ofFn, List.map_ofFn, ← Function.comp_assoc]
  exact .ofFn (f ∘ element)

/-- The elements stay the same. -/
theorem perm (h : PermutedBy order before after) : after.Perm before := by
  obtain ⟨element⟩ := h
  exact order.ofFn_comp_perm element

theorem append {later : Equiv.Perm (Fin m)} {next nextAfter : List α}
    (h : PermutedBy order before after) (others : PermutedBy later next nextAfter) :
    PermutedBy (sideBySide order later) (before ++ next) (after ++ nextAfter) := by
  obtain ⟨first⟩ := h
  obtain ⟨second⟩ := others
  rw [← List.ofFn_fin_append, ← List.ofFn_fin_append, ← append_comp_sideBySide]
  exact .ofFn (Fin.append first second)

end PermutedBy

end MoveBindings
