import MoveBindings.Text.Alphanumeric

/-!
# The words of a text

Every character that is in no word separates the words before it from those after
it. So the words of a text that is put together from words and separators are the
words that went into it.
-/

namespace MoveBindings.Text

variable {current text rest : List Char} {c : Char}

/-- Word characters go on with the current word. -/
theorem words_go_append (letters : ∀ c ∈ text, isWordChar c) (current rest : List Char) :
    words.go current (text ++ rest) = words.go (text.reverse ++ current) rest := by
  induction text generalizing current with
  | nil => rfl
  | cons first others ih =>
    rw [List.cons_append, words.go, if_pos (letters first List.mem_cons_self),
      ih fun c member => letters c (List.mem_cons_of_mem first member)]
    simp

/-- A word is its only word. -/
theorem words_eq_singleton (nonempty : text ≠ []) (letters : ∀ c ∈ text, isWordChar c) :
    words text = [text] := by
  have scanned := words_go_append letters [] []
  rw [List.append_nil, List.append_nil] at scanned
  rw [words, scanned, words.go, if_neg (by simpa using nonempty), List.reverse_reverse]

/-- A character that is in no word ends the current one. -/
theorem words_go_append_cons (ends : isWordChar c = false) (current text rest : List Char) :
    words.go current (text ++ c :: rest) = words.go current text ++ words rest := by
  induction text generalizing current with
  | nil =>
    rw [List.nil_append, words.go, words.go, ends]
    by_cases none : current.isEmpty
    · simp [none, words]
    · simp [none, words]
  | cons first others ih =>
    rw [List.cons_append, words.go, words.go, ih, ih]
    split
    · rfl
    · split
      · rfl
      · rfl

/-- The words around a character that is in no word are those before it and those after it. -/
theorem words_append_cons (ends : isWordChar c = false) (text rest : List Char) :
    words (text ++ c :: rest) = words text ++ words rest :=
  words_go_append_cons ends [] text rest

/-- Characters that are in no word have no words. -/
theorem words_eq_nil (none : ∀ c ∈ text, isWordChar c = false) : words text = [] := by
  induction text with
  | nil => rfl
  | cons first others ih =>
    have split := words_append_cons (none first List.mem_cons_self) [] others
    rw [List.nil_append] at split
    rw [split, ih fun c member => none c (List.mem_cons_of_mem first member)]
    rfl

/-- At the end of a text, characters that are in no word leave its words as they are. -/
theorem words_append_of_none (none : ∀ c ∈ rest, isWordChar c = false) (text : List Char) :
    words (text ++ rest) = words text := by
  cases rest with
  | nil => rw [List.append_nil]
  | cons first others =>
    rw [words_append_cons (none first List.mem_cons_self),
      words_eq_nil fun c member => none c (List.mem_cons_of_mem first member), List.append_nil]

end MoveBindings.Text
