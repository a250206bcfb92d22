import MoveBindings.Proofs.Path.Components
import MoveBindings.Tag.QualifiedName

/-!
# Move identifiers

Identifiers consist of ASCII letters, digits and underscores. None of the
characters that separate the parts of paths and of qualified names is among
them, so both can be taken apart again: a name followed by an extension is one
component of a path, and three names with double colons are read back as such.
-/

namespace MoveBindings

/-- A Move identifier: ASCII letters, digits and underscores, at least one of them. -/
structure IsMoveIdentifier (name : String) : Prop where
  ne_empty : name ≠ ""
  chars : ∀ c ∈ name.toList, c.isAlphanum = true ∨ c = '_'

instance (name : String) : Decidable (IsMoveIdentifier name) :=
  decidable_of_iff (name ≠ "" ∧ name.toList.all (fun c => c.isAlphanum || c == '_') = true) <| by
    simp only [List.all_eq_true, Bool.or_eq_true, beq_iff_eq]
    exact ⟨fun h => ⟨h.1, h.2⟩, fun h => ⟨h.ne_empty, h.chars⟩⟩

namespace IsMoveIdentifier

variable {name : String}

/-- No other character occurs. -/
theorem notMem (h : IsMoveIdentifier name) {c : Char}
    (other : ¬(c.isAlphanum = true ∨ c = '_')) : c ∉ name.toList :=
  fun found => other (h.chars c found)

theorem no_slash (h : IsMoveIdentifier name) : '/' ∉ name.toList := h.notMem (by decide)

theorem no_colon (h : IsMoveIdentifier name) : ':' ∉ name.toList := h.notMem (by decide)

theorem no_dot (h : IsMoveIdentifier name) : '.' ∉ name.toList := h.notMem (by decide)

/-- Whatever follows an identifier, the text does not start with a dot. -/
theorem head?_append (h : IsMoveIdentifier name) (extension : String) :
    (name ++ extension).toList.head? ≠ some '.' := by
  obtain ⟨c, rest, shape⟩ := List.exists_cons_of_ne_nil (mt String.toList_eq_nil_iff.mp h.ne_empty)
  have noDot := h.no_dot
  rw [shape] at noDot
  rw [String.toList_append, shape]
  simpa [eq_comm] using List.ne_of_not_mem_cons noDot

/-- An identifier with an extension is an entry of a directory. -/
theorem isEntry_append (h : IsMoveIdentifier name) {extension : String}
    (noSlash : '/' ∉ extension.toList) : Path.IsEntry (name ++ extension) where
  ne_empty := by simp [h.ne_empty]
  ne_dot := by
    intro dot
    exact h.head?_append extension (by simp [dot])
  no_slash := by
    rw [String.toList_append, List.mem_append, not_or]
    exact ⟨h.no_slash, noSlash⟩
  ne_up := by
    intro up
    exact h.head?_append extension (by simp [up])

theorem isEntry (h : IsMoveIdentifier name) : Path.IsEntry name := by
  have plain : Path.IsEntry (name ++ "") := h.isEntry_append (by simp)
  simpa using plain

end IsMoveIdentifier

namespace QualifiedName

/-- A qualified name of which every part is an identifier. -/
structure HasMoveIdentifiers (q : QualifiedName) : Prop where
  address : IsMoveIdentifier q.address
  module : IsMoveIdentifier q.module
  name : IsMoveIdentifier q.name

instance (q : QualifiedName) : Decidable q.HasMoveIdentifiers :=
  decidable_of_iff
    (IsMoveIdentifier q.address ∧ IsMoveIdentifier q.module ∧ IsMoveIdentifier q.name)
    ⟨fun h => ⟨h.1, h.2.1, h.2.2⟩, fun h => ⟨h.address, h.module, h.name⟩⟩

/-- A text without colons is one piece. -/
theorem pieces_of_notMem {text : List Char} (absent : ':' ∉ text) : pieces text = [text] := by
  induction text with
  | nil => rfl
  | cons c rest ih =>
    obtain ⟨other, absentLater⟩ := List.ne_and_not_mem_of_not_mem_cons absent
    rw [pieces, ih absentLater]
    rintro _ rfl
    exact absurd rfl other

/-- The first double colon ends the first piece. -/
theorem pieces_append_colons {before : List Char} (absent : ':' ∉ before) (after : List Char) :
    pieces (before ++ ':' :: ':' :: after) = before :: pieces after := by
  induction before with
  | nil => rw [List.nil_append, pieces]
  | cons c rest ih =>
    obtain ⟨other, absentLater⟩ := List.ne_and_not_mem_of_not_mem_cons absent
    rw [List.cons_append, pieces, ih absentLater]
    rintro _ rfl
    exact absurd rfl other

/-- Parts that are not empty and have no colons are read back. -/
theorem read_text {q : QualifiedName} (address : q.address ≠ "" ∧ ':' ∉ q.address.toList)
    (module : q.module ≠ "" ∧ ':' ∉ q.module.toList) (name : q.name ≠ "" ∧ ':' ∉ q.name.toList) :
    read q.text = .ok q := by
  have colons : ("::" : String).toList = [':', ':'] := rfl
  have shape : q.text.toList =
      q.address.toList ++ ':' :: ':' :: (q.module.toList ++ ':' :: ':' :: q.name.toList) := by
    simp [text, colons]
  rw [read, shape, pieces_append_colons address.2, pieces_append_colons module.2,
    pieces_of_notMem name.2]
  simp [address.1, module.1, name.1]

theorem HasMoveIdentifiers.read_text {q : QualifiedName} (h : q.HasMoveIdentifiers) :
    read q.text = .ok q :=
  QualifiedName.read_text ⟨h.address.ne_empty, h.address.no_colon⟩
    ⟨h.module.ne_empty, h.module.no_colon⟩ ⟨h.name.ne_empty, h.name.no_colon⟩

end QualifiedName

end MoveBindings
