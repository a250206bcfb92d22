import Mathlib.Data.List.TakeWhile
import MoveBindings.Proofs.Tag.Grammar

/-!
# Tokens are read as they are spelled

The readers of single tokens against the grammar. A token after blanks is read,
and what follows it is left; a word is read when no word character follows it.
Conversely whatever is read stood there in that form.
-/

namespace MoveBindings.Tag.Grammar

open Text

/-! ## Words -/

theorem not_isWordChar_of_isBlank {c : Char} (h : isBlank c) : isWordChar c = false := by
  simp only [isBlank, Bool.or_eq_true, beq_iff_eq] at h
  rcases h with ((rfl | rfl) | rfl) | rfl <;> decide

theorem isWord_of_scalar (name : String) (known : name ∈ scalarNames) :
    name.toList ≠ [] ∧ ∀ c ∈ name.toList, isWordChar c := by
  have all : ∀ name ∈ scalarNames, name.toList ≠ [] ∧ name.toList.all isWordChar = true := by
    decide
  exact ⟨(all name known).1, List.all_eq_true.mp (all name known).2⟩

/-- The keyword of a scalar as a word. -/
def Word.scalar (name : String) (known : name ∈ scalarNames) : Word :=
  ⟨name, (isWord_of_scalar name known).1, (isWord_of_scalar name known).2⟩

/-- The keyword of vectors as a word. -/
def Word.vector : Word := ⟨vectorName, by decide, List.all_eq_true.mp (by decide)⟩

/-! ## Blanks -/

/-- The blanks at the start of a text. -/
def Blanks.ofStart (text : List Char) : Blanks :=
  ⟨text.takeWhile isBlank, fun _ member => List.mem_takeWhile_imp member⟩

/-- No blanks. -/
def Blanks.none : Blanks := ⟨[], fun _ member => absurd member List.not_mem_nil⟩

@[simp] theorem Blanks.before_none (token : String) : Blanks.none.before token = token.toList := rfl

theorem ofStart_append_skipBlank (text : List Char) :
    (Blanks.ofStart text).text ++ skipBlank text = text :=
  List.takeWhile_append_dropWhile

@[simp] theorem skipBlank_append (blanks : Blanks) (rest : List Char) :
    skipBlank (blanks.text ++ rest) = skipBlank rest :=
  List.dropWhile_append_of_pos blanks.blank

@[simp] theorem skipBlank_blanks (blanks : Blanks) : skipBlank blanks.text = [] := by
  simpa [skipBlank] using skipBlank_append blanks []

theorem skipBlank_cons {c : Char} (solid : isBlank c = false) (rest : List Char) :
    skipBlank (c :: rest) = c :: rest :=
  List.dropWhile_cons_of_neg (by simp [solid])

/-- A text consists of blanks exactly when nothing is left without them. -/
theorem skipBlank_eq_nil_iff {text : List Char} :
    skipBlank text = [] ↔ ∃ blanks : Blanks, blanks.text = text := by
  constructor
  · intro empty
    have whole := ofStart_append_skipBlank text
    rw [empty, List.append_nil] at whole
    exact ⟨Blanks.ofStart text, whole⟩
  · rintro ⟨blanks, rfl⟩
    exact skipBlank_blanks blanks

/-! ## What may follow -/

/-- No word goes on into a text. -/
def EndsWord (rest : List Char) : Prop := ∀ c ∈ rest.head?, isWordChar c = false

theorem EndsWord.blanks_append {rest : List Char} (h : EndsWord rest) (blanks : Blanks) :
    EndsWord (blanks.text ++ rest) := by
  obtain ⟨text, blank⟩ := blanks
  cases text with
  | nil => exact h
  | cons first others =>
    intro c starts
    obtain rfl : first = c := by simpa using starts
    exact not_isWordChar_of_isBlank (blank first List.mem_cons_self)

/-- The tokens that are no words end the word before them. -/
theorem EndsWord.before_append {token : String} {first : Char} {others : List Char}
    (spelled : token.toList = first :: others) (ends : isWordChar first = false)
    (blanks : Blanks) (rest : List Char) : EndsWord (blanks.before token ++ rest) := by
  rw [Blanks.before, List.append_assoc, spelled]
  apply EndsWord.blanks_append
  intro c starts
  obtain rfl : first = c := by simpa using starts
  exact ends

/-- What may follow a tag: blanks, and then the end, a comma or a closing bracket. -/
def Follows (rest : List Char) : Prop := ∀ c ∈ (skipBlank rest).head?, c = ',' ∨ c = '>'

theorem Follows.blanks (blanks : Blanks) : Follows blanks.text := by
  intro c starts
  simp at starts

theorem Follows.comma (blanks : Blanks) (rest : List Char) :
    Follows (blanks.before "," ++ rest) := by
  intro c starts
  rw [Blanks.before, List.append_assoc, skipBlank_append] at starts
  obtain rfl : ',' = c := by simpa [skipBlank, isBlank] using starts
  exact Or.inl rfl

theorem Follows.closing (blanks : Blanks) (rest : List Char) :
    Follows (blanks.before ">" ++ rest) := by
  intro c starts
  rw [Blanks.before, List.append_assoc, skipBlank_append] at starts
  obtain rfl : '>' = c := by simpa [skipBlank, isBlank] using starts
  exact Or.inr rfl

theorem Follows.endsWord {rest : List Char} (h : Follows rest) : EndsWord rest := by
  rw [← ofStart_append_skipBlank rest]
  apply EndsWord.blanks_append
  intro c starts
  rcases h c starts with rfl | rfl <;> decide

/-- What may follow a derivation. A word at its end goes on no further, and a bare name has no
parameters. -/
def Derivation.Ends : Derivation → List Char → Prop
  | .scalar .., rest => EndsWord rest
  | .struct _, rest => EndsWord rest ∧ (skipBlank rest).head? ≠ some '<'
  | .vector .., _ | .applied .., _ => True

theorem Follows.notOpening {rest : List Char} (h : Follows rest) :
    (skipBlank rest).head? ≠ some '<' := by
  intro starts
  rcases h '<' starts with same | same <;> exact absurd same (by decide)

/-- What may follow every tag may follow each one. -/
theorem Follows.ends {rest : List Char} (h : Follows rest) (d : Derivation) : d.Ends rest := by
  cases d with
  | scalar => exact h.endsWord
  | struct => exact ⟨h.endsWord, h.notOpening⟩
  | vector | applied => trivial

/-! ## Reading -/

/-- A reader succeeds with a value and a rest. That the rest is shorter goes without saying. -/
def Reads {α : Type} {text : List Char} (outcome : Except (Stop Problem) (Reading α text))
    (value : α) (rest : List Char) : Prop :=
  ∃ reading, outcome = .ok reading ∧ reading.value = value ∧ reading.rest = rest

theorem Reads.shorter {α : Type} {text rest : List Char} {value : α}
    {outcome : Except (Stop Problem) (Reading α text)} (h : Reads outcome value rest) :
    rest.length < text.length := by
  obtain ⟨reading, _, _, rfl⟩ := h
  exact reading.shorter

theorem token_reads (token : Token) (blanks : Blanks) (rest : List Char)
    (solid : skipBlank (token.text.toList ++ rest) = token.text.toList ++ rest) :
    Reads (Reader.token token (blanks.before token.text ++ rest)) () rest := by
  have start : skipBlank (blanks.before token.text ++ rest) = token.text.toList ++ rest := by
    rw [Blanks.before, List.append_assoc, skipBlank_append, solid]
  have starts : token.text.toList.isPrefixOf (token.text.toList ++ rest) = true :=
    List.isPrefixOf_iff_prefix.mpr ⟨rest, rfl⟩
  simp only [Reads, Reader.token]
  split
  · refine ⟨_, rfl, trivial, ?_⟩
    simp [start]
  · next refused =>
    rw [start] at refused
    exact absurd starts refused

theorem opening_reads (blanks : Blanks) (rest : List Char) :
    Reads (Reader.token .opening (blanks.before "<" ++ rest)) () rest :=
  token_reads .opening blanks rest (skipBlank_cons rfl rest)

theorem closing_reads (blanks : Blanks) (rest : List Char) :
    Reads (Reader.token .closing (blanks.before ">" ++ rest)) () rest :=
  token_reads .closing blanks rest (skipBlank_cons rfl rest)

theorem colons_reads (blanks : Blanks) (rest : List Char) :
    Reads (Reader.token .doubleColon (blanks.before "::" ++ rest)) () rest :=
  token_reads .doubleColon blanks rest (skipBlank_cons rfl _)

theorem exists_before_of_token {token : Token} {text rest : List Char}
    (h : Reads (Reader.token token text) () rest) :
    ∃ blanks : Blanks, text = blanks.before token.text ++ rest := by
  obtain ⟨reading, h, -, rfl⟩ := h
  simp only [Reader.token] at h
  split at h
  · next starts =>
    cases h
    obtain ⟨rest, same⟩ := List.isPrefixOf_iff_prefix.mp starts
    refine ⟨Blanks.ofStart text, ?_⟩
    rw [Blanks.before, List.append_assoc]
    conv => lhs; rw [← ofStart_append_skipBlank text, ← same]
    simp [← same]
  · cases h

theorem word_reads (blanks : Blanks) (word : Word) {rest : List Char} (ends : EndsWord rest) :
    Reads (Reader.word (blanks.before word.text ++ rest)) word.text rest := by
  obtain ⟨text, nonempty, chars⟩ := word
  obtain ⟨first, others, spelled⟩ := List.exists_cons_of_ne_nil nonempty
  have inWord : isWordChar first := chars first (by simp [spelled])
  have start : skipBlank (blanks.before text ++ rest) = first :: (others ++ rest) := by
    rw [Blanks.before, List.append_assoc, skipBlank_append, spelled, List.cons_append]
    apply skipBlank_cons
    by_contra blank
    exact absurd inWord (by simp [not_isWordChar_of_isBlank (Bool.not_eq_false _ ▸ blank)])
  have taken : ∀ c ∈ others, isWordChar c := fun c member => chars c (by simp [spelled, member])
  have stops : rest.takeWhile isWordChar = [] ∧ rest.dropWhile isWordChar = rest := by
    cases rest with
    | nil => exact ⟨rfl, rfl⟩
    | cons c tail => simp [ends c rfl]
  simp only [Reads, Reader.word]
  split
  · next c tail first =>
    rw [start] at first
    obtain ⟨rfl, rfl⟩ := List.cons.inj first
    rw [if_pos inWord]
    refine ⟨_, rfl, ?_, ?_⟩
    · rw [List.takeWhile_append_of_pos taken, stops.1, List.append_nil, ← spelled,
        String.ofList_toList]
    · exact (List.dropWhile_append_of_pos taken).trans stops.2
  · next empty => simp [start] at empty

theorem exists_word_of_word {text rest : List Char} {value : String}
    (h : Reads (Reader.word text) value rest) :
    ∃ (blanks : Blanks) (word : Word), word.text = value ∧
      text = blanks.before word.text ++ rest := by
  obtain ⟨reading, h, rfl, rfl⟩ := h
  simp only [Reader.word] at h
  split at h
  · next c tail start =>
    split at h
    · next inWord =>
      cases h
      refine ⟨Blanks.ofStart text, ⟨String.ofList (c :: tail.takeWhile isWordChar), ?_, ?_⟩, rfl,
        ?_⟩
      · simp
      · simp only [String.toList_ofList, List.mem_cons]
        rintro d (rfl | later)
        · exact inWord
        · exact List.mem_takeWhile_imp later
      · simp only [Blanks.before, String.toList_ofList, List.append_assoc, List.cons_append,
          List.takeWhile_append_dropWhile]
        rw [← start, ofStart_append_skipBlank]
    · cases h
  · cases h

/-- A word that is read does not go on. -/
theorem endsWord_of_word {text rest : List Char} {value : String}
    (h : Reads (Reader.word text) value rest) : EndsWord rest := by
  obtain ⟨reading, h, rfl, rfl⟩ := h
  simp only [Reader.word] at h
  split at h
  · next c others start =>
    split at h
    · cases h
      intro first starts
      have stops := List.head?_dropWhile_not isWordChar others
      rw [Option.mem_def.mp starts] at stops
      simpa using stops
    · cases h
  · cases h

theorem firstNonBlank?_eq_some_iff {text : List Char} {reading : Reading Char text} :
    firstNonBlank? text = some reading ↔ skipBlank text = reading.value :: reading.rest := by
  obtain ⟨value, rest, shorter⟩ := reading
  unfold firstNonBlank?
  split
  · next empty => simp [empty]
  · next c tail first => simp [first]

end MoveBindings.Tag.Grammar
