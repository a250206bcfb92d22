import Mathlib.Data.String.Basic
import MoveBindings.QualifiedName

/-!
# Members of sorted sets

Sorting keeps exactly the elements of a list, provided that elements of which
neither comes first are equal. What is sorted ascends strictly, so no element is
left twice.
-/

namespace MoveBindings

/-- In an order of this kind, elements of which neither comes first are equal. -/
def IsTotal {α : Type} (less : α → α → Bool) : Prop :=
  ∀ a b, less a b = false → less b a = false → a = b

/-- In an order of this kind nothing comes before itself, directly or through others. -/
structure IsStrict {α : Type} (less : α → α → Bool) : Prop where
  irrefl : ∀ a, less a a = false
  trans : ∀ a b c, less a b = true → less b c = true → less a c = true

section

variable {α : Type} {less : α → α → Bool}

theorem mem_insertSorted_iff (total : IsTotal less) {x y : α} {elements : List α} :
    y ∈ insertSorted less x elements ↔ y = x ∨ y ∈ elements := by
  induction elements with
  | nil => simp [insertSorted]
  | cons first rest ih =>
    cases before : less x first with
    | true => simp [insertSorted, before]
    | false =>
      cases after : less first x with
      | true =>
        simp only [insertSorted, before, after, if_true, Bool.false_eq_true, if_false]
        rw [List.mem_cons, List.mem_cons, ih, or_left_comm]
      | false =>
        have kept : insertSorted less x (first :: rest) = first :: rest := by
          simp [insertSorted, before, after]
        rw [kept]
        have same := total x first before after
        simp [same]

/-- Sorting keeps exactly the elements of a list. -/
theorem mem_sortedSet_iff (total : IsTotal less) {x : α} {elements : List α} :
    x ∈ sortedSet less elements ↔ x ∈ elements := by
  induction elements with
  | nil => rfl
  | cons first rest ih =>
    have step : sortedSet less (first :: rest) = insertSorted less first (sortedSet less rest) :=
      rfl
    rw [step, mem_insertSorted_iff total, ih, List.mem_cons]

/-- An element is inserted into an ascending list so that the list ascends still. -/
theorem insertSorted_pairwise (total : IsTotal less) (strict : IsStrict less) (x : α)
    {elements : List α} (ascending : elements.Pairwise fun a b => less a b = true) :
    (insertSorted less x elements).Pairwise fun a b => less a b = true := by
  induction elements with
  | nil => simp [insertSorted]
  | cons first rest ih =>
    obtain ⟨least, later⟩ := List.pairwise_cons.mp ascending
    cases before : less x first with
    | true =>
      have here : insertSorted less x (first :: rest) = x :: first :: rest := by
        simp [insertSorted, before]
      rw [here]
      refine List.pairwise_cons.mpr ⟨fun y member => ?_, ascending⟩
      rcases List.mem_cons.mp member with rfl | member
      · exact before
      · exact strict.trans x first y before (least y member)
    | false =>
      cases after : less first x with
      | true =>
        have further : insertSorted less x (first :: rest) =
            first :: insertSorted less x rest := by
          simp [insertSorted, before, after]
        rw [further]
        refine List.pairwise_cons.mpr ⟨fun y member => ?_, ih later⟩
        rcases (mem_insertSorted_iff total).mp member with rfl | member
        · exact after
        · exact least y member
      | false =>
        have kept : insertSorted less x (first :: rest) = first :: rest := by
          simp [insertSorted, before, after]
        rwa [kept]

/-- What is sorted ascends. -/
theorem sortedSet_pairwise (total : IsTotal less) (strict : IsStrict less) (elements : List α) :
    (sortedSet less elements).Pairwise fun a b => less a b = true := by
  induction elements with
  | nil => exact .nil
  | cons first rest ih => exact insertSorted_pairwise total strict first ih

/-- A list of what has a property: each thing once, in ascending order. -/
structure IsListing (less : α → α → Bool) (Listed : α → Prop) (elements : List α) : Prop where
  ascending : elements.Pairwise fun a b => less a b = true
  mem_iff : ∀ x, x ∈ elements ↔ Listed x

theorem IsListing.congr {Listed Listed' : α → Prop} {elements : List α}
    (listing : IsListing less Listed elements) (same : ∀ x, Listed x ↔ Listed' x) :
    IsListing less Listed' elements where
  ascending := listing.ascending
  mem_iff x := (listing.mem_iff x).trans (same x)

theorem IsListing.filter {Listed : α → Prop} {elements : List α}
    (listing : IsListing less Listed elements) (chosen : α → Bool) :
    IsListing less (fun x => Listed x ∧ chosen x = true) (elements.filter chosen) where
  ascending := listing.ascending.filter chosen
  mem_iff x := by rw [List.mem_filter, listing.mem_iff]

theorem isListing_sortedSet (total : IsTotal less) (strict : IsStrict less) (elements : List α) :
    IsListing less (· ∈ elements) (sortedSet less elements) where
  ascending := sortedSet_pairwise total strict elements
  mem_iff _ := mem_sortedSet_iff total

/-- No element is left twice. -/
theorem sortedSet_nodup (total : IsTotal less) (strict : IsStrict less) (elements : List α) :
    (sortedSet less elements).Nodup := by
  refine (sortedSet_pairwise total strict elements).imp ?_
  rintro a _ before rfl
  cases (strict.irrefl a).symm.trans before

end

namespace Text

theorem less_isTotal : IsTotal less := by
  intro a b notBefore notAfter
  simp only [less, decide_eq_false_iff_not, not_lt] at notBefore notAfter
  exact le_antisymm notAfter notBefore

theorem less_isStrict : IsStrict less where
  irrefl a := by simp [less]
  trans a b c first second := by
    simp only [less, decide_eq_true_eq] at first second ⊢
    exact lt_trans first second

theorem sorted_nodup (texts : List String) : (sorted texts).Nodup :=
  sortedSet_nodup less_isTotal less_isStrict texts

theorem isListing_sorted (texts : List String) : IsListing less (· ∈ texts) (sorted texts) :=
  isListing_sortedSet less_isTotal less_isStrict texts

@[simp] theorem mem_sorted_iff {text : String} {texts : List String} :
    text ∈ sorted texts ↔ text ∈ texts :=
  mem_sortedSet_iff less_isTotal

end Text

theorem ModuleId.less_isTotal : IsTotal ModuleId.less := by
  rintro ⟨address, name⟩ ⟨otherAddress, otherName⟩ notBefore notAfter
  simp only [ModuleId.less, Bool.or_eq_false_iff, Bool.and_eq_false_imp, beq_iff_eq]
    at notBefore notAfter
  have addresses := Text.less_isTotal _ _ notBefore.1 notAfter.1
  have names := Text.less_isTotal _ _ (notBefore.2 addresses) (notAfter.2 addresses.symm)
  rw [addresses, names]

theorem ModuleId.less_isStrict : IsStrict ModuleId.less where
  irrefl a := by simp [less, Text.less_isStrict.irrefl]
  trans a b c first second := by
    simp only [less, Bool.or_eq_true, Bool.and_eq_true, beq_iff_eq] at first second ⊢
    rcases first with first | ⟨same, first⟩ <;> rcases second with second | ⟨alike, second⟩
    · exact .inl (Text.less_isStrict.trans _ _ _ first second)
    · exact .inl (alike ▸ first)
    · exact .inl (same ▸ second)
    · exact .inr ⟨same.trans alike, Text.less_isStrict.trans _ _ _ first second⟩

end MoveBindings
