/-!
# Sets of characters

A set of characters is given by the ascending list of code points at which
membership changes, starting outside. Long tables stay short in this form: a
run of members costs two numbers, however long it is.
-/

namespace MoveBindings.Text

/-- A set of characters, as the ascending code points where membership flips. -/
structure CharSet where
  flips : List Nat

namespace CharSet

/-- A character is a member when an odd number of flips lie at or before it. -/
def contains (set : CharSet) (c : Char) : Bool :=
  (set.flips.takeWhile (fun place => place ≤ c.toNat)).length % 2 == 1

@[simp] theorem contains_empty (c : Char) : (CharSet.mk []).contains c = false := rfl

end CharSet

end MoveBindings.Text
