import MoveBindings.Proofs.Tag.Steps

/-!
# The reader accepts exactly the grammar

Every derivation is read, whatever follows it that may follow a tag. Conversely
a reading has a derivation, which is found by the recursion of the reader: each
call starts on a shorter text, or on the same one for the first of several tags.
-/

namespace MoveBindings.Tag.Grammar

open Text

/-! ## Derivations are read -/

theorem EndsWord.before_colons (blanks : Blanks) (rest : List Char) :
    EndsWord (blanks.before "::" ++ rest) :=
  EndsWord.before_append rfl (by decide) blanks rest

theorem EndsWord.before_opening (blanks : Blanks) (rest : List Char) :
    EndsWord (blanks.before "<" ++ rest) :=
  EndsWord.before_append rfl (by decide) blanks rest

theorem StructName.reads (n : StructName) {rest : List Char} (ends : EndsWord rest) :
    ReadsName (n.text ++ rest) n.qualified rest := by
  simp only [StructName.text, List.append_assoc]
  exact ⟨n.address.notScalar, n.address.notVector, _, _, _, _,
    word_reads n.beforeAddress n.address.toWord (.before_colons _ _), colons_reads _ _,
    word_reads n.beforeModule n.module (.before_colons _ _), colons_reads _ _,
    word_reads n.beforeName n.name ends⟩

mutual

/-- A derivation is read, and what follows it is left. -/
theorem Derivation.reads_of_ends (d : Derivation) {rest : List Char} (ends : d.Ends rest) :
    Reads (Reader.tag (d.text ++ rest)) d.tag rest := by
  apply reads_of_readsTag
  cases d with
  | scalar before name known =>
    exact .scalar known (word_reads before (.scalar name known) ends)
  | vector before beforeOpening element beforeClosing =>
    simp only [Derivation.text, List.append_assoc]
    exact .vector (word_reads before .vector (.before_opening _ _)) (opening_reads _ _)
      (element.reads_of_ends ((Follows.closing _ _).ends element)) (closing_reads _ _)
  | struct name => exact .struct (name.reads ends.1) ends.2
  | applied name beforeOpening params beforeClosing =>
    simp only [Derivation.text, List.append_assoc]
    refine .applied (name.reads (.before_opening _ _)) ?_ (params.reads beforeClosing rest)
    rw [Blanks.before, List.append_assoc, skipBlank_append]
    exact skipBlank_cons rfl _

/-- The derivation of several tags is read together with the closing bracket. -/
theorem Params.reads (p : Params) (beforeClosing : Blanks) (rest : List Char) :
    Reads (Reader.tags (p.text ++ (beforeClosing.before ">" ++ rest))) p.tags rest := by
  apply reads_of_readsTags
  cases p with
  | last param =>
    refine .last (param.reads_of_ends ((Follows.closing _ _).ends param)) ?_ (closing_reads _ _)
    rw [Blanks.before, List.append_assoc, skipBlank_append]
    intro starts
    exact absurd starts (by simp [skipBlank, isBlank])
  | more param beforeComma others =>
    simp only [Params.text, List.append_assoc]
    refine .more (param.reads_of_ends ((Follows.comma _ _).ends param)) ?_
      (others.reads beforeClosing rest)
    rw [Blanks.before, List.append_assoc, skipBlank_append]
    exact skipBlank_cons rfl _

end

/-- A derivation is read before everything that may follow a tag. -/
theorem Derivation.reads (d : Derivation) {rest : List Char} (follows : Follows rest) :
    Reads (Reader.tag (d.text ++ rest)) d.tag rest :=
  d.reads_of_ends (follows.ends d)

/-! ## What is read is derived -/

theorem exists_structName_of_readsName {text rest : List Char} {name : QualifiedName}
    (h : ReadsName text name rest) :
    ∃ n : StructName, n.qualified = name ∧ text = n.text ++ rest ∧ EndsWord rest := by
  have ends : EndsWord rest := by
    obtain ⟨_, _, _, _, _, _, _, _, last⟩ := h.steps
    exact endsWord_of_word last
  obtain ⟨notScalar, notVector, _, _, _, _, address, moduleColons, module, nameColons, last⟩ := h
  obtain ⟨beforeAddress, addressWord, hAddress, rfl⟩ := exists_word_of_word address
  obtain ⟨beforeModuleColons, rfl⟩ := exists_before_of_token moduleColons
  obtain ⟨beforeModule, moduleWord, hModule, rfl⟩ := exists_word_of_word module
  obtain ⟨beforeNameColons, rfl⟩ := exists_before_of_token nameColons
  obtain ⟨beforeName, nameWord, hName, rfl⟩ := exists_word_of_word last
  rw [← hAddress] at notScalar notVector
  refine ⟨⟨beforeAddress, ⟨addressWord, notScalar, notVector⟩, beforeModuleColons, beforeModule,
    moduleWord, beforeNameColons, beforeName, nameWord⟩, ?_, ?_, ends⟩
  · simp only [StructName.qualified, hAddress, hModule, hName]
  · simp only [StructName.text, List.append_assoc]
    rfl

mutual

/-- What is read as a tag has a derivation, and what follows may follow it. -/
theorem exists_derivation_of_reads {text rest : List Char} {tag : Tag}
    (h : Reads (Reader.tag text) tag rest) :
    ∃ d : Derivation, d.tag = tag ∧ text = d.text ++ rest ∧ d.Ends rest := by
  cases readsTag_of_reads h with
  | @scalar name _ known keyword =>
    have ends := endsWord_of_word keyword
    obtain ⟨before, word, rfl, rfl⟩ := exists_word_of_word keyword
    exact ⟨.scalar before word.text known, rfl, rfl, ends⟩
  | @vector element afterWord inside afterElement _ keyword opening body closing =>
    have shorter : inside.length < text.length := opening.shorter.trans keyword.shorter
    obtain ⟨derived, rfl, hInside, -⟩ := exists_derivation_of_reads body
    obtain ⟨before, word, hWord, rfl⟩ := exists_word_of_word keyword
    obtain ⟨beforeOpening, rfl⟩ := exists_before_of_token opening
    obtain ⟨beforeClosing, rfl⟩ := exists_before_of_token closing
    refine ⟨.vector before beforeOpening derived beforeClosing, rfl, ?_, trivial⟩
    rw [hWord, hInside]
    simp only [Derivation.text, List.append_assoc]
    rfl
  | struct named bare =>
    obtain ⟨name, rfl, rfl, ends⟩ := exists_structName_of_readsName named
    exact ⟨.struct name, rfl, rfl, ends, bare⟩
  | @applied _ params afterName inside _ named opening body =>
    have shorter : inside.length < text.length :=
      (length_lt_of_skipBlank opening).trans named.shorter
    obtain ⟨derived, beforeClosing, rfl, hInside⟩ := exists_params_of_reads body
    obtain ⟨name, rfl, rfl, -⟩ := exists_structName_of_readsName named
    refine ⟨.applied name (.ofStart afterName) derived beforeClosing, rfl, ?_, trivial⟩
    conv => lhs; rw [← ofStart_append_skipBlank afterName, opening, hInside]
    simp [Derivation.text, Blanks.before]
termination_by (text.length, 0)

/-- What is read as several tags has a derivation, up to the closing bracket. -/
theorem exists_params_of_reads {text rest : List Char} {params : List Tag}
    (h : Reads (Reader.tags text) params rest) :
    ∃ (p : Params) (beforeClosing : Blanks), p.tags = params ∧
      text = p.text ++ (beforeClosing.before ">" ++ rest) := by
  cases readsTags_of_reads h with
  | last param _ closing =>
    obtain ⟨derived, rfl, rfl, -⟩ := exists_derivation_of_reads param
    obtain ⟨beforeClosing, rfl⟩ := exists_before_of_token closing
    exact ⟨.last derived, beforeClosing, rfl, rfl⟩
  | @more _ _ afterFirst more _ param comma body =>
    have shorter : more.length < text.length :=
      (length_lt_of_skipBlank comma).trans param.shorter
    obtain ⟨others, beforeClosing, rfl, hMore⟩ := exists_params_of_reads body
    obtain ⟨derived, rfl, hText, -⟩ := exists_derivation_of_reads param
    refine ⟨.more derived (.ofStart afterFirst) others, beforeClosing, rfl, ?_⟩
    rw [hText]
    conv => lhs; rw [← ofStart_append_skipBlank afterFirst, comma, hMore]
    simp [Params.text, Blanks.before]
termination_by (text.length, 1)

end

end MoveBindings.Tag.Grammar
