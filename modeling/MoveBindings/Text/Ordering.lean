/-!
# Sorted sets

A set is kept as a strictly ascending list. Inserting finds the place of the
element and does nothing when it is there already, so the list depends on the
members alone and not on the order of insertion. Texts ascend by code point,
and entries may be put in the order of their keys.
-/

namespace MoveBindings

/-- Inserts an element into a strictly ascending list. -/
def insertSorted (less : α → α → Bool) (x : α) : List α → List α
  | [] => [x]
  | y :: rest =>
    if less x y then x :: y :: rest
    else if less y x then y :: insertSorted less x rest
    else y :: rest

/-- The elements of a list in strictly ascending order. -/
def sortedSet (less : α → α → Bool) (elements : List α) : List α :=
  elements.foldr (insertSorted less) []

namespace Text

/-- Ascending order by code point. -/
def less (a b : String) : Bool := decide (a < b)

/-- Texts in ascending order without repeats. -/
def sorted (texts : List String) : List String := sortedSet less texts

/-- Entries in ascending order of their keys. Entries with one key stay in order. -/
def sortedByKey {α : Type} (entries : List (String × α)) : List (String × α) :=
  entries.mergeSort fun a b => !less b.1 a.1

end Text

end MoveBindings
