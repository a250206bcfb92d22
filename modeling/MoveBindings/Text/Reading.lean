/-!
# Reading steps

A reader takes something off the front of a text. Its result carries the rest
of the text together with the proof that the rest is shorter, so that readers
may call each other on what is left and still end. A reader that fails says why
and where: the place is given by the text from there on.
-/

namespace MoveBindings.Text

/-- What was read off the front of a text, and what is left of it. -/
structure Reading (α : Type) (text : List Char) where
  value : α
  rest : List Char
  shorter : rest.length < text.length

/-- Why a reader stopped, and the text from the place where it did. -/
structure Stop (ε : Type) where
  problem : ε
  rest : List Char

/-- The place of a stop in the text that was read, counted in characters. -/
def Stop.position {ε : Type} (text : List Char) (stop : Stop ε) : Nat :=
  text.length - stop.rest.length

namespace Reading

variable {α β : Type} {text later : List Char}

/-- Changes the value that was read. -/
def map (f : α → β) (r : Reading α text) : Reading β text :=
  ⟨f r.value, r.rest, r.shorter⟩

/-- A reading of a later part of a text is a reading of the whole text. -/
def widen (h : later.length ≤ text.length) (r : Reading α later) : Reading α text :=
  ⟨r.value, r.rest, Nat.lt_of_lt_of_le r.shorter h⟩

@[simp] theorem value_map (f : α → β) (r : Reading α text) : (r.map f).value = f r.value := rfl

@[simp] theorem rest_map (f : α → β) (r : Reading α text) : (r.map f).rest = r.rest := rfl

@[simp] theorem value_widen (h : later.length ≤ text.length) (r : Reading α later) :
    (r.widen h).value = r.value := rfl

@[simp] theorem rest_widen (h : later.length ≤ text.length) (r : Reading α later) :
    (r.widen h).rest = r.rest := rfl

end Reading

/-- Space, tab, line feed and carriage return stand between tokens. -/
def isBlank (c : Char) : Bool :=
  c == ' ' || c == '\t' || c == '\n' || c == '\r'

/-- A text without the blanks at its start. -/
def skipBlank (text : List Char) : List Char := text.dropWhile isBlank

theorem length_skipBlank_le (text : List Char) : (skipBlank text).length ≤ text.length :=
  (List.dropWhile_suffix isBlank).length_le

/-- The first character that is not blank, with what follows it. -/
def firstNonBlank? (text : List Char) : Option (Reading Char text) :=
  match h : skipBlank text with
  | [] => none
  | c :: rest => some ⟨c, rest, by
      have := length_skipBlank_le text
      rw [h] at this
      exact this⟩

end MoveBindings.Text
