import MoveBindings.Proofs.Tag.Language
import MoveBindings.Proofs.Tag.Refused

/-!
# Where a text stops being a tag

A text that is refused has two parts, before and after the reported position. The
part before it is the start of some text that is accepted. Of the part after it
two characters are enough to see that nothing accepted goes on in that way, and
one of them may be needed to end a word.
-/

namespace MoveBindings.Tag.Grammar

open Text

/-- A text is refused after the seen part of it: no derivation goes on there, or one is complete
and the text goes on. -/
inductive Refused (rest : List Char) : List Char → Problem → Prop where
  | stuck {seen : List Char} {problem : Problem} (inner : Stuck rest .tag seen problem) :
      Refused rest seen problem
  | trailing (derivation : Derivation) (blanks : Blanks)
      (ends : derivation.Ends (blanks.text ++ rest)) (solid : Solid rest) (more : rest ≠ []) :
      Refused rest (derivation.text ++ blanks.text) .trailingInput

variable {text rest other seen : List Char} {problem : Problem} {symbol : Symbol}

theorem StuckName.solid (h : StuckName rest seen problem) : Solid rest := by
  cases h with
  | moduleColons _ _ _ _ missing => exact missing.solid
  | module _ _ _ _ missing => exact missing.solid
  | nameColons _ _ _ _ _ _ _ missing => exact missing.solid
  | name _ _ _ _ _ _ _ missing => exact missing.solid

theorem Stuck.solid (h : Stuck rest symbol seen problem) : Solid rest := by
  induction h with
  | keyword _ missing => exact missing.solid
  | opening _ _ _ missing => exact missing.solid
  | closing _ _ _ _ _ missing => exact missing.solid
  | closingParams _ _ _ _ missing => exact missing.solid
  | name inner => exact inner.solid
  | element _ _ _ ih => exact ih
  | params _ _ _ ih => exact ih
  | param _ ih => exact ih
  | more _ _ _ ih => exact ih

namespace Refused

theorem solid (h : Refused rest seen problem) : Solid rest := by
  cases h with
  | stuck inner => exact inner.solid
  | trailing _ _ _ solid => exact solid

/-- What was seen is the start of a spelling. -/
theorem exists_spelling (h : Refused rest seen problem) :
    ∃ s : Spelling, seen <+: s.text := by
  cases h with
  | stuck inner =>
    obtain ⟨derivation, started⟩ := inner.starts
    exact ⟨⟨derivation, .none⟩, started.trans (List.prefix_append _ _)⟩
  | trailing derivation blanks => exact ⟨⟨derivation, blanks⟩, List.prefix_refl _⟩

/-- A text is refused alike before every rest with the same two characters at its start. -/
theorem of_alike (h : Refused rest seen problem) (alike : rest.take 2 = other.take 2) :
    Refused other seen problem := by
  cases h with
  | stuck inner => exact .stuck (inner.of_alike alike)
  | trailing derivation blanks ends solid more =>
    refine .trailing derivation blanks (ends.of_alike alike solid blanks) (solid.of_alike alike) ?_
    rintro rfl
    exact more (by simpa using alike)

end Refused

/-- The reader of whole texts stops exactly where a text is refused. -/
theorem all_eq_error_iff :
    Reader.all text = .error ⟨problem, rest⟩ ↔
      ∃ seen, text = seen ++ rest ∧ Refused rest seen problem := by
  constructor
  · intro h
    rcases bind_eq_error_iff.mp h with stopped | ⟨⟨tag, afterTag, _⟩, hread, h⟩
    · obtain ⟨seen, spelled, inner⟩ := tag_stops_iff.mp stopped
      exact ⟨seen, spelled, .stuck inner⟩
    · obtain ⟨derivation, -, spelled, ends⟩ :=
        exists_derivation_of_reads ⟨_, hread, rfl, rfl⟩
      dsimp only at h spelled ends
      split at h
      · cases h
      · next more =>
        cases h
        obtain ⟨solid, blanks, same⟩ := skipBlank_eq_iff.mp (rfl : skipBlank afterTag = _)
        rw [same] at ends
        refine ⟨_, ?_, .trailing derivation blanks ends solid more⟩
        rw [List.append_assoc, ← same, spelled]
  · rintro ⟨seen, rfl, refused⟩
    cases refused with
    | stuck inner =>
      have stops : Stops (Reader.tag (seen ++ rest)) problem rest :=
        tag_stops_iff.mpr ⟨seen, rfl, inner⟩
      rw [Stops] at stops
      rw [Reader.all, stops, error_bind]
    | trailing derivation blanks ends solid more =>
      obtain ⟨⟨_, _, _⟩, hread, rfl, rfl⟩ := derivation.reads_of_ends ends
      have start : skipBlank (blanks.text ++ rest) = rest :=
        skipBlank_eq_iff.mpr ⟨solid, blanks, rfl⟩
      rw [List.append_assoc, Reader.all, hread, ok_bind]
      dsimp only
      rw [start, if_neg more]
      rfl

end MoveBindings.Tag.Grammar

namespace MoveBindings.Tag

open Text Grammar

/-- An error says where a text is refused, by the number of characters before that place. -/
theorem read_eq_error_iff {text : String} {error : SyntaxError} :
    Tag.read text = .error error ↔
      ∃ seen rest, text.toList = seen ++ rest ∧ Refused rest seen error.problem ∧
        error.text = text ∧ error.position = seen.length := by
  constructor
  · intro h
    rw [Tag.read] at h
    split at h
    · cases h
    · next stop stopped =>
      cases h
      obtain ⟨seen, spelled, refused⟩ := all_eq_error_iff.mp stopped
      refine ⟨seen, stop.rest, spelled, refused, rfl, ?_⟩
      simp [Stop.position, spelled]
  · rintro ⟨seen, rest, spelled, refused, rfl, place⟩
    rw [Tag.read, all_eq_error_iff.mpr ⟨seen, spelled, refused⟩]
    obtain ⟨text, position, problem⟩ := error
    simp only [Stop.position, spelled, List.length_append, Nat.add_sub_cancel_right] at place ⊢
    rw [place]

/-- The position of an error is exact. It lies in the text or at its end, and not before a blank.
The text before it is the start of a text that is accepted. No text is accepted that starts with
it and the two characters after it. -/
theorem read_error_position_exact {text : String} {error : SyntaxError}
    (h : Tag.read text = .error error) :
    error.position ≤ text.length ∧
    (∀ c ∈ text.toList[error.position]?, isBlank c = false) ∧
    (∃ other tag, Tag.read other = .ok tag ∧ text.toList.take error.position <+: other.toList) ∧
    (error.position + 2 ≤ text.length → ∀ other tag,
      text.toList.take (error.position + 2) <+: other.toList → Tag.read other ≠ .ok tag) := by
  obtain ⟨seen, rest, spelled, refused, -, place⟩ := read_eq_error_iff.mp h
  have size : text.length = seen.length + rest.length := by
    rw [← String.length_toList, spelled, List.length_append]
  rw [place, spelled]
  refine ⟨by omega, ?_, ?_, ?_⟩
  · intro c there
    rw [List.getElem?_append_right (Nat.le_refl _), Nat.sub_self, ← List.head?_eq_getElem?] at there
    exact refused.solid c there
  · obtain ⟨s, started⟩ := refused.exists_spelling
    refine ⟨String.ofList s.text, s.tag, ?_, ?_⟩
    · exact read_eq_ok_iff.mpr ⟨s, String.toList_ofList.symm, rfl⟩
    · rwa [List.take_left, String.toList_ofList]
  · intro long other tag started accepted
    rw [List.take_length_add_append] at started
    obtain ⟨after, same⟩ := started
    -- The other text starts with the same two characters after the seen part.
    have alike : rest.take 2 = (rest.take 2 ++ after).take 2 := by
      rw [List.take_append_of_le_length (by simp; omega), List.take_take, Nat.min_self]
    have fails : Tag.read other = .error ⟨other, seen.length, error.problem⟩ :=
      read_eq_error_iff.mpr ⟨seen, rest.take 2 ++ after, by rw [← same, List.append_assoc],
        refused.of_alike alike, rfl, rfl⟩
    rw [fails] at accepted
    cases accepted

/-- The address of a struct in a vector, with half of the colons after it. -/
theorem read_half_colons : Tag.read "vector<0x1:a>" =
    .error ⟨"vector<0x1:a>", 10, .tokenExpected .doubleColon⟩ := by
  have missing : NoToken .doubleColon ":a>".toList :=
    ⟨fun c starts => by cases starts; decide, by decide⟩
  have stuck := Stuck.element .none .none (.name (.moduleColons .none
    ⟨⟨"0x1", by decide, List.all_eq_true.mp (by decide)⟩, by decide, by decide⟩ .none
    (fun c starts => by cases starts; decide) missing))
  exact read_eq_error_iff.mpr ⟨"vector<0x1".toList, _, rfl, .stuck stuck, rfl, rfl⟩

theorem read_error_position_exact_half_colons :
    Tag.read "vector<0x1:a>" = .error ⟨"vector<0x1:a>", 10, .tokenExpected .doubleColon⟩ ∧
    10 ≤ "vector<0x1:a>".length ∧
    (∀ c ∈ "vector<0x1:a>".toList[10]?, isBlank c = false) ∧
    (∃ other tag, Tag.read other = .ok tag ∧
      "vector<0x1:a>".toList.take 10 <+: other.toList) ∧
    (10 + 2 ≤ "vector<0x1:a>".length → ∀ other tag,
      "vector<0x1:a>".toList.take (10 + 2) <+: other.toList → Tag.read other ≠ .ok tag) :=
  ⟨read_half_colons, read_error_position_exact read_half_colons⟩

end MoveBindings.Tag
