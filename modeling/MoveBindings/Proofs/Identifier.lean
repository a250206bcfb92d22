import MoveBindings.Identifier
import MoveBindings.Proofs.MoveIdentifier

/-!
# When two names become one identifier

The rule for reserved words keeps different names apart, and so does the rule for
temporaries. Two names can become one identifier only when different rules apply
to them, or when separators are replaced in both. Under the standard rules a
name without separators meets another one in one case: a reserved word, and the
same word with the suffix that reserved words get.
-/

namespace MoveBindings

namespace Text

variable {pattern replacement text : List Char} {c : Char}

/-- A text that lacks a character of the pattern does not begin with the pattern. -/
theorem dropStart?_of_notMem (needed : c ∈ pattern) (absent : c ∉ text) :
    dropStart? pattern text = none := by
  rw [Option.eq_none_iff_forall_not_mem]
  intro rest found
  apply absent
  rw [dropStart?_eq_some_iff.mp found]
  exact List.mem_append_left rest needed

/-- In a text that lacks a character of the pattern nothing is replaced. -/
theorem replaceAll_of_notMem (needed : c ∈ pattern) (absent : c ∉ text) :
    replaceAll pattern replacement text = text := by
  have kept : replaceFrom pattern replacement 0 text = text := by
    induction text with
    | nil => rfl
    | cons first rest ih =>
      have here := dropStart?_of_notMem needed absent
      simp [replaceFrom, here, ih (List.not_mem_of_not_mem_cons absent)]
  rw [replaceAll, kept, ite_self]

end Text

namespace NamingRules

/-- A name that is neither a reserved word nor a temporary. -/
structure IsPlain (rules : NamingRules) (name : String) : Prop where
  notReserved : name ∉ rules.reservedWords
  notTemporary : rules.temporary? name = none

/-- A name to which the rule for temporaries applies, which leaves a rest of it. -/
structure IsTemporary (rules : NamingRules) (name : String) (rest : List Char) : Prop where
  notReserved : name ∉ rules.reservedWords
  marked : rules.temporary? name = some rest

/-- Two different names that become one identifier. Different rules apply to them, in the order in
which the rules are tried, or separators are replaced in both. -/
inductive Clash (rules : NamingRules) : String → String → Prop where
  | reservedTemporary {name other : String} {rest : List Char}
      (reserved : name ∈ rules.reservedWords) (temporary : rules.IsTemporary other rest)
      (same : name ++ rules.keywordSuffix = rules.tempPrefix ++ String.ofList rest) :
      Clash rules name other
  | reservedPlain {name other : String} (reserved : name ∈ rules.reservedWords)
      (plain : rules.IsPlain other)
      (same : name ++ rules.keywordSuffix = rules.unshadowed other) : Clash rules name other
  | temporaryPlain {name other : String} {rest : List Char}
      (temporary : rules.IsTemporary name rest) (plain : rules.IsPlain other)
      (same : rules.tempPrefix ++ String.ofList rest = rules.unshadowed other) :
      Clash rules name other
  | plain {name other : String} (first : rules.IsPlain name) (second : rules.IsPlain other)
      (different : name ≠ other) (same : rules.unshadowed name = rules.unshadowed other) :
      Clash rules name other

variable {rules : NamingRules} {name other : String} {rest : List Char}

/-- To every name one rule applies. -/
theorem reserved_or_temporary_or_plain (rules : NamingRules) (name : String) :
    name ∈ rules.reservedWords ∨ (∃ rest, rules.IsTemporary name rest) ∨ rules.IsPlain name := by
  by_cases reserved : name ∈ rules.reservedWords
  · exact .inl reserved
  · cases marked : rules.temporary? name with
    | some rest => exact .inr (.inl ⟨rest, reserved, marked⟩)
    | none => exact .inr (.inr ⟨reserved, marked⟩)

theorem IsTemporary.identifier_eq (h : rules.IsTemporary name rest) :
    rules.identifier name = rules.tempPrefix ++ String.ofList rest := by
  simp [identifier, h.notReserved, h.marked]

theorem IsPlain.identifier_eq (h : rules.IsPlain name) :
    rules.identifier name = rules.unshadowed name := by
  simp [identifier, h.notReserved, h.notTemporary]

/-- A temporary is its marker and the rest. -/
theorem IsTemporary.toList_eq (h : rules.IsTemporary name rest) :
    name.toList = rules.tempMarker.toList ++ rest := by
  have marked := h.marked
  unfold temporary? at marked
  split at marked
  · cases marked
  · exact Text.dropStart?_eq_some_iff.mp marked

/-- Temporaries with one rest are one name. -/
theorem IsTemporary.unique (h : rules.IsTemporary name rest) (h' : rules.IsTemporary other rest) :
    name = other :=
  String.toList_injective (h.toList_eq.trans h'.toList_eq.symm)

theorem Clash.identifier_eq (h : rules.Clash name other) :
    rules.identifier name = rules.identifier other := by
  cases h with
  | reservedTemporary reserved temporary same =>
    rw [identifier_of_mem reserved, temporary.identifier_eq, same]
  | reservedPlain reserved plain same => rw [identifier_of_mem reserved, plain.identifier_eq, same]
  | temporaryPlain temporary plain same => rw [temporary.identifier_eq, plain.identifier_eq, same]
  | plain first second _ same => rw [first.identifier_eq, second.identifier_eq, same]

theorem Clash.ne (h : rules.Clash name other) : name ≠ other := by
  cases h with
  | reservedTemporary reserved temporary _ =>
    exact fun same => temporary.notReserved (same ▸ reserved)
  | reservedPlain reserved plain _ => exact fun same => plain.notReserved (same ▸ reserved)
  | temporaryPlain temporary plain _ =>
    rintro rfl
    cases temporary.marked.symm.trans plain.notTemporary
  | plain _ _ different _ => exact different

/-- Two names become one identifier exactly when they are equal or clash. -/
theorem identifier_eq_iff : rules.identifier name = rules.identifier other ↔
    name = other ∨ rules.Clash name other ∨ rules.Clash other name := by
  constructor
  · intro same
    rcases rules.reserved_or_temporary_or_plain name with reserved | ⟨rest, temporary⟩ | plain <;>
    rcases rules.reserved_or_temporary_or_plain other with
      otherReserved | ⟨otherRest, otherTemporary⟩ | otherPlain
    · rw [identifier_of_mem reserved, identifier_of_mem otherReserved] at same
      exact .inl ((String.append_left_inj rules.keywordSuffix).mp same)
    · rw [identifier_of_mem reserved, otherTemporary.identifier_eq] at same
      exact .inr (.inl (.reservedTemporary reserved otherTemporary same))
    · rw [identifier_of_mem reserved, otherPlain.identifier_eq] at same
      exact .inr (.inl (.reservedPlain reserved otherPlain same))
    · rw [temporary.identifier_eq, identifier_of_mem otherReserved] at same
      exact .inr (.inr (.reservedTemporary otherReserved temporary same.symm))
    · rw [temporary.identifier_eq, otherTemporary.identifier_eq, String.append_right_inj,
        String.ofList_inj] at same
      subst same
      exact .inl (temporary.unique otherTemporary)
    · rw [temporary.identifier_eq, otherPlain.identifier_eq] at same
      exact .inr (.inl (.temporaryPlain temporary otherPlain same))
    · rw [plain.identifier_eq, identifier_of_mem otherReserved] at same
      exact .inr (.inr (.reservedPlain otherReserved plain same.symm))
    · rw [plain.identifier_eq, otherTemporary.identifier_eq] at same
      exact .inr (.inr (.temporaryPlain otherTemporary plain same.symm))
    · by_cases equal : name = other
      · exact .inl equal
      · rw [plain.identifier_eq, otherPlain.identifier_eq] at same
        exact .inr (.inl (.plain plain otherPlain equal same))
  · rintro (rfl | clash | clash)
    · rfl
    · exact clash.identifier_eq
    · exact clash.identifier_eq.symm

/-! ## The standard rules -/

/-- The standard rules. -/
def standard : NamingRules := {}

/-- Under the standard rules a name without separators changes only when it is a reserved word. -/
theorem identifier_standard (bare : '#' ∉ name.toList) :
    standard.identifier name = if name ∈ standard.reservedWords then name ++ "__" else name := by
  split
  · next reserved => exact identifier_of_mem reserved
  · next free =>
    have notTemporary : standard.temporary? name = none :=
      Text.dropStart?_of_notMem (by decide) bare
    have kept : standard.unshadowed name = name := by
      rw [unshadowed, Text.replaceAll_of_notMem (by decide) bare, String.ofList_toList]
    rw [IsPlain.identifier_eq ⟨free, notTemporary⟩, kept]

/-- Under the standard rules names without separators become one identifier only when one is a
reserved word and the other the same word with its suffix. -/
theorem identifier_standard_eq_iff (bare : '#' ∉ name.toList) (otherBare : '#' ∉ other.toList) :
    standard.identifier name = standard.identifier other ↔ name = other ∨
      (name ∈ standard.reservedWords ∧ other = name ++ "__") ∨
      (other ∈ standard.reservedWords ∧ name = other ++ "__") := by
  have suffixed : ∀ word ∈ standard.reservedWords, word ++ "__" ∉ standard.reservedWords := by
    decide
  rw [identifier_standard bare, identifier_standard otherBare]
  split <;> split
  · next reserved otherReserved =>
    rw [String.append_left_inj]
    constructor
    · exact .inl
    · rintro (same | ⟨_, rfl⟩ | ⟨_, rfl⟩)
      · exact same
      · exact absurd otherReserved (suffixed name reserved)
      · exact absurd reserved (suffixed other otherReserved)
  · next reserved free =>
    constructor
    · exact fun same => .inr (.inl ⟨reserved, same.symm⟩)
    · rintro (rfl | ⟨_, rfl⟩ | ⟨otherReserved, _⟩)
      · exact absurd reserved free
      · rfl
      · exact absurd otherReserved free
  · next free otherReserved =>
    constructor
    · exact fun same => .inr (.inr ⟨otherReserved, same⟩)
    · rintro (rfl | ⟨reserved, _⟩ | ⟨_, rfl⟩)
      · exact absurd otherReserved free
      · exact absurd reserved free
      · rfl
  · next free otherFree =>
    constructor
    · exact .inl
    · rintro (same | ⟨reserved, _⟩ | ⟨otherReserved, _⟩)
      · exact same
      · exact absurd reserved free
      · exact absurd otherReserved otherFree

end NamingRules

/-- Under the standard rules Move identifiers stay Move identifiers. -/
theorem IsMoveIdentifier.identifier_standard {name : String} (h : IsMoveIdentifier name) :
    IsMoveIdentifier (NamingRules.standard.identifier name) := by
  have bare : '#' ∉ name.toList := h.notMem (by decide)
  rw [NamingRules.identifier_standard bare]
  split
  · refine ⟨by simp, fun c found => ?_⟩
    rw [String.toList_append, List.mem_append] at found
    rcases found with inName | inSuffix
    · exact h.chars c inName
    · have underscores : ("__" : String).toList = ['_', '_'] := rfl
      rw [underscores] at inSuffix
      exact .inr (by simpa using inSuffix)
  · exact h

end MoveBindings
