import MoveBindings.Proofs.Tag.Tokens

/-!
# Where the grammar gets stuck

A text gets stuck after some part of it when that part is the start of a
derivation and what follows is not what comes next in one: a word is expected and
none is there, or a token. Words before that place are complete, since they would
otherwise go on. There is one case for each place in the grammar where a token
stands.

Whatever was seen before such a place can be completed to a derivation. And it is
a matter of at most two characters that nothing goes on there. Nothing here
refers to the reader.
-/

namespace MoveBindings.Tag.Grammar

open Text

/-! ## What may follow, and what may not -/

/-- A text that does not start with a blank. -/
def Solid (rest : List Char) : Prop := ∀ c ∈ rest.head?, isBlank c = false

theorem Solid.skipBlank_eq {rest : List Char} (h : Solid rest) : skipBlank rest = rest := by
  cases rest with
  | nil => rfl
  | cons c rest => exact skipBlank_cons (h c rfl) rest

theorem solid_skipBlank (text : List Char) : Solid (skipBlank text) := by
  intro c starts
  have stops := List.head?_dropWhile_not isBlank text
  rw [← skipBlank, Option.mem_def.mp starts] at stops
  simpa using stops

/-- What is left without the blanks at the start does not start with a blank. -/
theorem skipBlank_eq_iff {text rest : List Char} :
    skipBlank text = rest ↔ Solid rest ∧ ∃ blanks : Blanks, text = blanks.text ++ rest := by
  constructor
  · rintro rfl
    exact ⟨solid_skipBlank text, .ofStart text, (ofStart_append_skipBlank text).symm⟩
  · rintro ⟨solid, blanks, rfl⟩
    rw [skipBlank_append, solid.skipBlank_eq]

/-- A text at whose start a word is missing. -/
structure NoWord (rest : List Char) : Prop where
  solid : Solid rest
  absent : EndsWord rest

/-- A text at whose start a token is missing. -/
structure NoToken (token : Token) (rest : List Char) : Prop where
  solid : Solid rest
  absent : ¬token.text.toList <+: rest

/-! ## Places -/

/-- The name of a struct gets stuck after the seen part of it, before the rest. -/
inductive StuckName (rest : List Char) : List Char → Problem → Prop where
  | moduleColons (beforeAddress : Blanks) (address : Address) (blanks : Blanks)
      (ends : EndsWord (blanks.text ++ rest)) (missing : NoToken .doubleColon rest) :
      StuckName rest (beforeAddress.before address.text ++ blanks.text)
        (.tokenExpected .doubleColon)
  | module (beforeAddress : Blanks) (address : Address) (beforeColons blanks : Blanks)
      (missing : NoWord rest) :
      StuckName rest
        (beforeAddress.before address.text ++ (beforeColons.before "::" ++ blanks.text))
        .identifierExpected
  | nameColons (beforeAddress : Blanks) (address : Address) (beforeColons beforeModule : Blanks)
      (module : Word) (blanks : Blanks) (ends : EndsWord (blanks.text ++ rest))
      (missing : NoToken .doubleColon rest) :
      StuckName rest
        (beforeAddress.before address.text ++ (beforeColons.before "::" ++
          (beforeModule.before module.text ++ blanks.text)))
        (.tokenExpected .doubleColon)
  | name (beforeAddress : Blanks) (address : Address) (beforeColons beforeModule : Blanks)
      (module : Word) (beforeNameColons blanks : Blanks) (missing : NoWord rest) :
      StuckName rest
        (beforeAddress.before address.text ++ (beforeColons.before "::" ++
          (beforeModule.before module.text ++ (beforeNameColons.before "::" ++ blanks.text))))
        .identifierExpected

/-- What is derived: a tag, or the tags between angle brackets. -/
inductive Symbol where
  | tag
  | tags
deriving DecidableEq, Repr

/-- A tag, or several tags, get stuck after the seen part, before the rest. -/
inductive Stuck (rest : List Char) : Symbol → List Char → Problem → Prop where
  | keyword (blanks : Blanks) (missing : NoWord rest) :
      Stuck rest .tag blanks.text .identifierExpected
  | opening (before blanks : Blanks) (ends : EndsWord (blanks.text ++ rest))
      (missing : NoToken .opening rest) :
      Stuck rest .tag (before.before vectorName ++ blanks.text) (.tokenExpected .opening)
  | element {seen : List Char} {problem : Problem} (before beforeOpening : Blanks)
      (inner : Stuck rest .tag seen problem) :
      Stuck rest .tag (before.before vectorName ++ (beforeOpening.before "<" ++ seen)) problem
  | closing (before beforeOpening : Blanks) (element : Derivation) (blanks : Blanks)
      (ends : element.Ends (blanks.text ++ rest)) (missing : NoToken .closing rest) :
      Stuck rest .tag
        (before.before vectorName ++
          (beforeOpening.before "<" ++ (element.text ++ blanks.text)))
        (.tokenExpected .closing)
  | name {seen : List Char} {problem : Problem} (inner : StuckName rest seen problem) :
      Stuck rest .tag seen problem
  | params {seen : List Char} {problem : Problem} (name : StructName) (beforeOpening : Blanks)
      (inner : Stuck rest .tags seen problem) :
      Stuck rest .tag (name.text ++ (beforeOpening.before "<" ++ seen)) problem
  | param {seen : List Char} {problem : Problem} (inner : Stuck rest .tag seen problem) :
      Stuck rest .tags seen problem
  | closingParams (param : Derivation) (blanks : Blanks)
      (ends : param.Ends (blanks.text ++ rest)) (alone : rest.head? ≠ some ',')
      (missing : NoToken .closing rest) :
      Stuck rest .tags (param.text ++ blanks.text) (.tokenExpected .closing)
  | more {seen : List Char} {problem : Problem} (param : Derivation) (beforeComma : Blanks)
      (inner : Stuck rest .tags seen problem) :
      Stuck rest .tags (param.text ++ (beforeComma.before "," ++ seen)) problem

variable {rest other seen : List Char} {problem : Problem} {symbol : Symbol}

/-! ## What was seen can be completed -/

/-- Some scalar. -/
def Derivation.any (before : Blanks) : Derivation := .scalar before "bool" (by decide)

/-- Some word. -/
def Word.any : Word := .scalar "bool" (by decide)

theorem StuckName.exists_name (h : StuckName rest seen problem) :
    ∃ name : StructName, seen <+: name.text := by
  cases h with
  | moduleColons beforeAddress address blanks =>
    refine ⟨⟨beforeAddress, address, blanks, .none, .any, .none, .none, .any⟩, ?_⟩
    simp only [StructName.text, Blanks.before, List.append_assoc, List.prefix_append_right_inj,
      List.prefix_append]
  | module beforeAddress address beforeColons blanks =>
    refine ⟨⟨beforeAddress, address, beforeColons, blanks, .any, .none, .none, .any⟩, ?_⟩
    simp only [StructName.text, Blanks.before, List.append_assoc, List.prefix_append_right_inj,
      List.prefix_append]
  | nameColons beforeAddress address beforeColons beforeModule module blanks =>
    refine ⟨⟨beforeAddress, address, beforeColons, beforeModule, module, blanks, .none, .any⟩, ?_⟩
    simp only [StructName.text, Blanks.before, List.append_assoc, List.prefix_append_right_inj,
      List.prefix_append]
  | name beforeAddress address beforeColons beforeModule module beforeNameColons blanks =>
    refine ⟨⟨beforeAddress, address, beforeColons, beforeModule, module, beforeNameColons, blanks,
      .any⟩, ?_⟩
    simp only [StructName.text, Blanks.before, List.append_assoc, List.prefix_append_right_inj,
      List.prefix_append]

/-- A text with which a derivation starts, together with the closing bracket if there is one. -/
def Symbol.Starts : Symbol → List Char → Prop
  | .tag, seen => ∃ d : Derivation, seen <+: d.text
  | .tags, seen => ∃ (p : Params) (blanks : Blanks), seen <+: p.text ++ blanks.before ">"

/-- What was seen is the start of a derivation. -/
theorem Stuck.starts (h : Stuck rest symbol seen problem) : symbol.Starts seen := by
  induction h with
  | keyword blanks => exact ⟨.any blanks, List.prefix_append _ _⟩
  | opening before blanks =>
    refine ⟨.vector before blanks (.any .none) .none, ?_⟩
    simp only [Derivation.text, Blanks.before, List.append_assoc, List.prefix_append_right_inj,
      List.prefix_append]
  | element before beforeOpening _ ih =>
    obtain ⟨d, started⟩ := ih
    refine ⟨.vector before beforeOpening d .none, ?_⟩
    simp only [Derivation.text, List.prefix_append_right_inj]
    exact started.trans (List.prefix_append _ _)
  | closing before beforeOpening element blanks =>
    refine ⟨.vector before beforeOpening element blanks, ?_⟩
    simp only [Derivation.text, Blanks.before, List.prefix_append_right_inj, List.prefix_append]
  | name inner =>
    obtain ⟨name, started⟩ := inner.exists_name
    exact ⟨.struct name, started⟩
  | params name beforeOpening _ ih =>
    obtain ⟨p, blanks, started⟩ := ih
    refine ⟨.applied name beforeOpening p blanks, ?_⟩
    simpa only [Derivation.text, List.prefix_append_right_inj] using started
  | param _ ih =>
    obtain ⟨d, started⟩ := ih
    exact ⟨.last d, .none, started.trans (List.prefix_append _ _)⟩
  | closingParams param blanks =>
    refine ⟨.last param, blanks, ?_⟩
    simp only [Params.text, Blanks.before, List.prefix_append_right_inj, List.prefix_append]
  | more param beforeComma _ ih =>
    obtain ⟨p, blanks, started⟩ := ih
    refine ⟨.more param beforeComma p, blanks, ?_⟩
    simpa only [Params.text, List.append_assoc, List.prefix_append_right_inj] using started

/-! ## Two characters decide -/

section

variable (alike : rest.take 2 = other.take 2)

include alike

theorem head?_of_alike : rest.head? = other.head? := by
  have first := congrArg List.head? alike
  rwa [List.head?_take, List.head?_take, if_neg (by decide), if_neg (by decide)] at first

theorem Solid.of_alike (h : Solid rest) : Solid other := by
  rwa [Solid, ← head?_of_alike alike]

theorem EndsWord.of_alike {blanks : Blanks} (h : EndsWord (blanks.text ++ rest)) :
    EndsWord (blanks.text ++ other) := by
  have heads := head?_of_alike alike
  rwa [EndsWord, List.head?_append, ← heads, ← List.head?_append]

theorem NoWord.of_alike (h : NoWord rest) : NoWord other := by
  have absent : EndsWord (Blanks.none.text ++ rest) := h.absent
  exact ⟨h.solid.of_alike alike, absent.of_alike alike⟩

/-- No token is longer than two characters. -/
theorem NoToken.of_alike {token : Token} (h : NoToken token rest) : NoToken token other := by
  refine ⟨h.solid.of_alike alike, fun starts => h.absent ?_⟩
  have short : token.text.toList.length ≤ 2 := by cases token <;> decide
  have inTwo := List.prefix_take_iff.mpr ⟨starts, short⟩
  exact (alike ▸ inTwo).trans (List.take_prefix 2 rest)

theorem Derivation.Ends.of_alike (solid : Solid rest) {d : Derivation} (blanks : Blanks)
    (h : d.Ends (blanks.text ++ rest)) : d.Ends (blanks.text ++ other) := by
  cases d with
  | scalar => exact EndsWord.of_alike alike h
  | vector | applied => trivial
  | struct =>
    refine ⟨EndsWord.of_alike alike h.1, ?_⟩
    have bare := h.2
    rw [skipBlank_append, solid.skipBlank_eq] at bare
    rwa [skipBlank_append, (solid.of_alike alike).skipBlank_eq, ← head?_of_alike alike]

theorem StuckName.of_alike (h : StuckName rest seen problem) : StuckName other seen problem := by
  cases h with
  | moduleColons before address blanks ends missing =>
    exact .moduleColons before address blanks (ends.of_alike alike) (missing.of_alike alike)
  | module before address beforeColons blanks missing =>
    exact .module before address beforeColons blanks (missing.of_alike alike)
  | nameColons before address beforeColons beforeModule module blanks ends missing =>
    exact .nameColons before address beforeColons beforeModule module blanks (ends.of_alike alike)
      (missing.of_alike alike)
  | name before address beforeColons beforeModule module beforeNameColons blanks missing =>
    exact .name before address beforeColons beforeModule module beforeNameColons blanks
      (missing.of_alike alike)

/-- A tag that gets stuck before some text does so before every text with the same two characters
at its start. -/
theorem Stuck.of_alike (h : Stuck rest symbol seen problem) : Stuck other symbol seen problem := by
  induction h with
  | keyword blanks missing => exact .keyword blanks (missing.of_alike alike)
  | opening before blanks ends missing =>
    exact .opening before blanks (ends.of_alike alike) (missing.of_alike alike)
  | element before beforeOpening _ ih => exact .element before beforeOpening ih
  | closing before beforeOpening element blanks ends missing =>
    exact .closing before beforeOpening element blanks (ends.of_alike alike missing.solid blanks)
      (missing.of_alike alike)
  | name inner => exact .name (inner.of_alike alike)
  | params name beforeOpening _ ih => exact .params name beforeOpening ih
  | param _ ih => exact .param ih
  | closingParams param blanks ends alone missing =>
    exact .closingParams param blanks (ends.of_alike alike missing.solid blanks)
      (head?_of_alike alike ▸ alone) (missing.of_alike alike)
  | more param beforeComma _ ih => exact .more param beforeComma ih

end

end MoveBindings.Tag.Grammar
