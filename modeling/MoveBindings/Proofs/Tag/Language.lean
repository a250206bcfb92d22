import MoveBindings.Proofs.Tag.Unambiguous

/-!
# The language of type tags

A text is read as a tag exactly when it spells that tag in the grammar, and any
other text is refused with an error about that text. Since a text has at most one
spelling, the tag is not a matter of choice.
-/

namespace MoveBindings.Tag

open Text Grammar

theorem Reader.all_eq_ok_iff {text : List Char} {tag : Tag} :
    Reader.all text = .ok tag ↔ ∃ s : Spelling, s.text = text ∧ s.tag = tag := by
  constructor
  · intro h
    obtain ⟨⟨read, rest, shorter⟩, hread, h⟩ := exists_of_bind_eq_ok h
    obtain ⟨derivation, rfl, spelled, -⟩ := exists_derivation_of_reads ⟨_, hread, rfl, rfl⟩
    dsimp only at h spelled
    split at h
    · next empty =>
      obtain ⟨after, rfl⟩ := skipBlank_eq_nil_iff.mp empty
      cases h
      exact ⟨⟨derivation, after⟩, spelled.symm, rfl⟩
    · cases h
  · rintro ⟨⟨derivation, after⟩, rfl, rfl⟩
    obtain ⟨⟨_, _, _⟩, hread, rfl, rfl⟩ := derivation.reads (.blanks after)
    rw [Spelling.text, Reader.all, hread]
    exact if_pos (skipBlank_blanks after)

theorem read_eq_ok_iff {text : String} {tag : Tag} :
    Tag.read text = .ok tag ↔ ∃ s : Spelling, s.text = text.toList ∧ s.tag = tag := by
  rw [← Reader.all_eq_ok_iff, Tag.read]
  cases Reader.all text.toList <;> simp

theorem text_of_read_eq_error {text : String} {error : SyntaxError}
    (h : Tag.read text = .error error) : error.text = text := by
  rw [Tag.read] at h
  split at h
  · cases h
  · cases h
    rfl

/-- The reader accepts exactly the grammar: it returns a tag if and only if the text spells that
tag, it refuses every text that spells none, and no text has two spellings. -/
theorem read_accepts_exactly_spellings (text : String) :
    (∀ tag, Tag.read text = .ok tag ↔ ∃ s : Spelling, s.text = text.toList ∧ s.tag = tag) ∧
    ((¬ ∃ s : Spelling, s.text = text.toList) →
      ∃ error : SyntaxError, Tag.read text = .error error ∧ error.text = text) ∧
    ∀ s s' : Spelling, s.text = text.toList → s'.text = text.toList → s = s' := by
  refine ⟨fun tag => read_eq_ok_iff, ?_, ?_⟩
  · intro none
    cases outcome : Tag.read text with
    | ok tag =>
      obtain ⟨s, spelled, -⟩ := read_eq_ok_iff.mp outcome
      exact absurd ⟨s, spelled⟩ none
    | error error => exact ⟨error, rfl, text_of_read_eq_error outcome⟩
  · intro s s' spelled spelled'
    exact Spelling.text_injective (spelled.trans spelled'.symm)

end MoveBindings.Tag
