import MoveBindings.Proofs.Identifier

/-!
# What the standard rules guarantee

Under the standard rules an identifier is no reserved word, and it does not begin
like a temporary. It has a separator in it only when the name has the marker of
temporaries and one more separator, because the rule for temporaries comes before
the one for separators and leaves the rest of the name alone. These names are the
only ones whose identifiers change again when the rules are applied to them.
-/

namespace MoveBindings

namespace Text

variable {c d : Char} {replacement text : List Char}

/-- A pattern of one character is replaced character by character. -/
theorem replaceAll_singleton (c : Char) (replacement text : List Char) :
    replaceAll [c] replacement text = text.flatMap fun d => if c = d then replacement else [d] := by
  have fromHere : replaceFrom [c] replacement 0 text =
      text.flatMap fun d => if c = d then replacement else [d] := by
    induction text with
    | nil => rfl
    | cons d rest ih =>
      rw [List.flatMap_cons, ← ih]
      by_cases here : c = d
      · subst here
        simp [replaceFrom, dropStart?]
      · simp [replaceFrom, dropStart?, here]
  exact fromHere

/-- What is left when a character is replaced: the other characters, and those that replace it. -/
theorem mem_replaceAll_singleton_iff :
    d ∈ replaceAll [c] replacement text ↔ (d ∈ text ∧ c ≠ d) ∨ (c ∈ text ∧ d ∈ replacement) := by
  rw [replaceAll_singleton, List.mem_flatMap]
  constructor
  · rintro ⟨e, member, found⟩
    split at found
    · next same => exact .inr ⟨same ▸ member, found⟩
    · next other =>
      cases List.mem_singleton.mp found
      exact .inl ⟨member, other⟩
  · rintro (⟨member, other⟩ | ⟨member, found⟩)
    · exact ⟨d, member, by rw [if_neg other]; exact List.mem_singleton_self d⟩
    · exact ⟨c, member, by rwa [if_pos rfl]⟩

end Text

namespace NamingRules

variable {name : String} {rest : List Char}

/-- A name with the marker of temporaries and one more separator after it. -/
def IsShadowedTemporary (name : String) : Prop :=
  ∃ rest, name.toList = '%' :: '#' :: rest ∧ '#' ∈ rest

/-! ## The three rules -/

theorem identifier_standard_of_reserved (reserved : name ∈ standard.reservedWords) :
    standard.identifier name = name ++ "__" :=
  identifier_of_mem reserved

/-- The marker of a temporary is followed by its rest. -/
theorem IsTemporary.toList_standard (temporary : standard.IsTemporary name rest) :
    name.toList = '%' :: '#' :: rest :=
  temporary.toList_eq

theorem IsTemporary.toList_identifier_standard (temporary : standard.IsTemporary name rest) :
    (standard.identifier name).toList = 't' :: 'e' :: 'm' :: 'p' :: '$' :: rest := by
  rw [temporary.identifier_eq, String.toList_append, String.toList_ofList]
  rfl

theorem IsPlain.not_marked (plain : standard.IsPlain name) :
    name.toList ≠ '%' :: '#' :: rest := by
  intro marked
  have temporary : standard.temporary? name = some rest :=
    Text.dropStart?_eq_some_iff.mpr marked
  cases temporary.symm.trans plain.notTemporary

/-- The characters of a plain name's identifier. -/
theorem IsPlain.mem_identifier_standard_iff (plain : standard.IsPlain name) {c : Char} :
    c ∈ (standard.identifier name).toList ↔
      (c ∈ name.toList ∧ '#' ≠ c) ∨ ('#' ∈ name.toList ∧ c ∈ ['_', '_']) := by
  rw [plain.identifier_eq, unshadowed, String.toList_ofList]
  exact Text.mem_replaceAll_singleton_iff

/-- No reserved word has a separator or an underscore in it. -/
theorem notMem_of_reserved (reserved : name ∈ standard.reservedWords) :
    '#' ∉ name.toList ∧ '_' ∉ name.toList := by
  have plain : ∀ word ∈ standard.reservedWords, '#' ∉ word.toList ∧ '_' ∉ word.toList := by
    decide
  exact plain name reserved

/-! ## Identifiers -/

/-- A separator is left only in the rest of a temporary. -/
theorem separator_mem_identifier_standard_iff :
    '#' ∈ (standard.identifier name).toList ↔ IsShadowedTemporary name := by
  rcases standard.reserved_or_temporary_or_plain name with reserved | ⟨rest, temporary⟩ | plain
  · have bare := (notMem_of_reserved reserved).1
    rw [identifier_standard_of_reserved reserved, String.toList_append, List.mem_append]
    constructor
    · rintro (inName | inSuffix)
      · exact absurd inName bare
      · exact absurd inSuffix (by decide)
    · rintro ⟨rest, marked, -⟩
      exact absurd (by simp [marked]) bare
  · rw [temporary.toList_identifier_standard, IsShadowedTemporary, temporary.toList_standard]
    simp
  · rw [plain.mem_identifier_standard_iff]
    constructor
    · rintro (⟨-, other⟩ | ⟨-, replaced⟩)
      · exact absurd rfl other
      · exact absurd replaced (by decide)
    · rintro ⟨rest, marked, -⟩
      exact absurd marked plain.not_marked

/-- Names that are no reserved words and have no separators are kept, and no others are. -/
theorem identifier_standard_eq_self_iff :
    standard.identifier name = name ↔ name ∉ standard.reservedWords ∧ '#' ∉ name.toList := by
  constructor
  · intro kept
    refine ⟨fun reserved => ?_, fun separated => ?_⟩
    · have underscore : '_' ∈ (standard.identifier name).toList := by
        simp [identifier_standard_of_reserved reserved]
      rw [kept] at underscore
      exact (notMem_of_reserved reserved).2 underscore
    · have separator := separated
      rw [← kept, separator_mem_identifier_standard_iff] at separator
      obtain ⟨rest, marked, -⟩ := separator
      -- The marker of a temporary never stays, so the first characters differ.
      have temporary : standard.IsTemporary name rest :=
        ⟨fun reserved => (notMem_of_reserved reserved).1 separated,
          Text.dropStart?_eq_some_iff.mpr marked⟩
      have changed := temporary.toList_identifier_standard
      rw [kept, marked] at changed
      cases changed
  · rintro ⟨free, bare⟩
    rw [identifier_standard bare, if_neg free]

theorem identifier_standard_notMem_reserved :
    standard.identifier name ∉ standard.reservedWords := by
  intro reserved
  have bare := notMem_of_reserved reserved
  rcases standard.reserved_or_temporary_or_plain name with original | ⟨rest, temporary⟩ | plain
  · exact bare.2 (by simp [identifier_standard_of_reserved original])
  · have noDollar : ∀ word ∈ standard.reservedWords, '$' ∉ word.toList := by decide
    exact noDollar _ reserved (by simp [temporary.toList_identifier_standard])
  · by_cases separated : '#' ∈ name.toList
    · exact bare.2 (plain.mem_identifier_standard_iff.mpr (.inr ⟨separated, by decide⟩))
    · rw [identifier_standard_eq_self_iff.mpr ⟨plain.notReserved, separated⟩] at reserved
      exact plain.notReserved reserved

theorem identifier_standard_not_marked :
    (standard.identifier name).toList ≠ '%' :: '#' :: rest := by
  intro marked
  have separated : IsShadowedTemporary name :=
    separator_mem_identifier_standard_iff.mp (by simp [marked])
  obtain ⟨_, original, -⟩ := separated
  rcases standard.reserved_or_temporary_or_plain name with reserved | ⟨rest, temporary⟩ | plain
  · exact (notMem_of_reserved reserved).1 (by simp [original])
  · rw [temporary.toList_identifier_standard] at marked
    cases marked
  · exact plain.not_marked original

/-- The words that the standard rules reserve. -/
def standardWords : List String := ["default", "for", "new"]

/-- What the standard rules guarantee. Names that are no reserved words and have no separators are
kept, and no others are. An identifier is no reserved word, and does not begin with the marker of
temporaries. The names with the marker and one more separator are exactly those whose identifiers
have a separator in them, and exactly those whose identifiers change again. Different names without
separators become one identifier exactly when one is a reserved word and the other the same word
with its suffix. -/
theorem standard_rules_guarantee :
    (∀ name : String,
      (standard.identifier name = name ↔ name ∉ standardWords ∧ '#' ∉ name.toList) ∧
      standard.identifier name ∉ standardWords ∧
      ¬ "%#".toList <+: (standard.identifier name).toList ∧
      ('#' ∈ (standard.identifier name).toList ↔ IsShadowedTemporary name) ∧
      (standard.identifier (standard.identifier name) = standard.identifier name ↔
        ¬ IsShadowedTemporary name)) ∧
    ∀ name other : String, name ≠ other → '#' ∉ name.toList → '#' ∉ other.toList →
      (standard.identifier name = standard.identifier other ↔
        (name ∈ standardWords ∧ other = name ++ "__") ∨
        (other ∈ standardWords ∧ name = other ++ "__")) := by
  constructor
  · intro name
    refine ⟨identifier_standard_eq_self_iff, identifier_standard_notMem_reserved, ?_,
      separator_mem_identifier_standard_iff, ?_⟩
    · rintro ⟨rest, marked⟩
      exact identifier_standard_not_marked marked.symm
    · rw [identifier_standard_eq_self_iff, separator_mem_identifier_standard_iff]
      exact and_iff_right identifier_standard_notMem_reserved
  · intro name other different bare otherBare
    rw [identifier_standard_eq_iff bare otherBare]
    exact or_iff_right different

theorem standard_rules_guarantee_new :
    "new" ≠ "new__" ∧ '#' ∉ "new".toList ∧ '#' ∉ "new__".toList ∧
      standard.identifier "new" = standard.identifier "new__" := by
  have bare : '#' ∉ "new".toList := by decide
  have otherBare : '#' ∉ "new__".toList := by decide
  exact ⟨by decide, bare, otherBare,
    (standard_rules_guarantee.2 "new" "new__" (by decide) bare otherBare).mpr
      (.inl ⟨by decide, by decide⟩)⟩

end NamingRules

end MoveBindings
