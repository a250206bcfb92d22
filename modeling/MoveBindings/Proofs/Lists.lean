import Mathlib.Data.List.Nodup

/-!
# Choosing from lists

Elements of a list are chosen by a condition or by a key. Of elements with
different keys a key chooses one.
-/

namespace MoveBindings

variable {α β κ : Type}

/-- What is taken from some elements, one by one, is taken from those that are chosen. -/
theorem flatMap_if (chosen : α → Bool) (f : α → β) (elements : List α) :
    (elements.flatMap fun element => if chosen element then [f element] else []) =
      (elements.filter chosen).map f := by
  induction elements with
  | nil => rfl
  | cons first rest ih =>
    rw [List.flatMap_cons, ih, List.filter_cons]
    cases chosen first <;> rfl

/-- Two ways to take lists of the same lengths from some elements give one list when they agree on
each element. -/
theorem flatMap_eq_flatMap_iff {f g : α → List β} (same : ∀ x, (f x).length = (g x).length)
    {elements : List α} :
    elements.flatMap f = elements.flatMap g ↔ ∀ x ∈ elements, f x = g x := by
  induction elements with
  | nil => simp
  | cons first rest ih =>
    rw [List.flatMap_cons, List.flatMap_cons, List.forall_mem_cons, ← ih]
    constructor
    · exact fun both => List.append_inj both (same first)
    · rintro ⟨here, later⟩
      rw [here, later]

/-- Elements at the end of a list are found first from there. -/
theorem find?_reverse_eq_some_iff {p : α → Bool} {elements : List α} {element : α} :
    elements.reverse.find? p = some element ↔
      p element = true ∧ ∃ before after, elements = before ++ element :: after ∧
        ∀ later ∈ after, p later = false := by
  rw [List.find?_eq_some_iff_append]
  refine and_congr_right fun _ => ?_
  constructor
  · rintro ⟨after, before, split, none⟩
    refine ⟨before.reverse, after.reverse, ?_, fun later member => ?_⟩
    · simpa using congrArg List.reverse split
    · simpa using none later (List.mem_reverse.mp member)
  · rintro ⟨before, after, rfl, none⟩
    refine ⟨after.reverse, before.reverse, by simp, fun later member => ?_⟩
    simpa using none later (List.mem_reverse.mp member)

/-- Of elements with different keys one has the key of a given one. -/
theorem filter_key_eq_singleton [DecidableEq κ] {key : α → κ} {elements : List α}
    (once : (elements.map key).Nodup) {element : α} (found : element ∈ elements) :
    elements.filter (fun other => key other == key element) = [element] := by
  induction elements with
  | nil => cases found
  | cons first rest ih =>
    rw [List.map_cons, List.nodup_cons] at once
    rcases List.mem_cons.mp found with rfl | later
    · have others : rest.filter (fun other => key other == key element) = [] := by
        rw [List.filter_eq_nil_iff]
        intro other member same
        exact once.1 (List.mem_map.mpr ⟨other, member, beq_iff_eq.mp same⟩)
      rw [List.filter_cons, if_pos (beq_self_eq_true _), others]
    · have different : ¬(key first == key element) = true := by
        intro same
        exact once.1 (List.mem_map.mpr ⟨element, later, (beq_iff_eq.mp same).symm⟩)
      rw [List.filter_cons, if_neg different, ih once.2 later]

end MoveBindings
