import MoveBindings.Proofs.Tag.Accepted

/-!
# The grammar is unambiguous

A text has at most one spelling: neither the tree nor the place of a single
blank is left open. A token and its blanks are determined by the text that
starts with them, words because nothing that may follow one goes on with it; the
rest is induction on the derivation.
-/

namespace MoveBindings.Tag.Grammar

open Text

/-- A reader has one outcome. -/
theorem Reads.unique {α : Type} {text rest rest' : List Char} {value value' : α}
    {outcome : Except (Stop Problem) (Reading α text)}
    (h : Reads outcome value rest) (h' : Reads outcome value' rest') :
    value = value' ∧ rest = rest' := by
  obtain ⟨reading, same, rfl, rfl⟩ := h
  obtain ⟨reading', same', rfl, rfl⟩ := h'
  obtain rfl := Except.ok.inj (same.symm.trans same')
  exact ⟨rfl, rfl⟩

theorem before_cancel {blanks blanks' : Blanks} {token : String} {rest : List Char}
    (same : blanks.before token ++ rest = blanks'.before token ++ rest) : blanks = blanks' :=
  Blanks.ext (List.append_cancel_right (List.append_cancel_right same))

theorem token_cancel (token : Token) {blanks blanks' : Blanks} {rest rest' : List Char}
    (solid : ∀ tail, skipBlank (token.text.toList ++ tail) = token.text.toList ++ tail)
    (same : blanks.before token.text ++ rest = blanks'.before token.text ++ rest') :
    blanks = blanks' ∧ rest = rest' := by
  have read := token_reads token blanks rest (solid rest)
  rw [same] at read
  obtain ⟨-, rfl⟩ := read.unique (token_reads token blanks' rest' (solid rest'))
  exact ⟨before_cancel same, rfl⟩

theorem word_cancel (word word' : Word) {blanks blanks' : Blanks} {rest rest' : List Char}
    (ends : EndsWord rest) (ends' : EndsWord rest')
    (same : blanks.before word.text ++ rest = blanks'.before word'.text ++ rest') :
    blanks = blanks' ∧ word = word' ∧ rest = rest' := by
  have read := word_reads blanks word ends
  rw [same] at read
  obtain ⟨sameWord, rfl⟩ := read.unique (word_reads blanks' word' ends')
  obtain rfl := Word.ext sameWord
  exact ⟨before_cancel same, rfl, rfl⟩

theorem opening_cancel {blanks blanks' : Blanks} {rest rest' : List Char}
    (same : blanks.before "<" ++ rest = blanks'.before "<" ++ rest') :
    blanks = blanks' ∧ rest = rest' :=
  token_cancel .opening (skipBlank_cons rfl) same

theorem closing_cancel {blanks blanks' : Blanks} {rest rest' : List Char}
    (same : blanks.before ">" ++ rest = blanks'.before ">" ++ rest') :
    blanks = blanks' ∧ rest = rest' :=
  token_cancel .closing (skipBlank_cons rfl) same

theorem colons_cancel {blanks blanks' : Blanks} {rest rest' : List Char}
    (same : blanks.before "::" ++ rest = blanks'.before "::" ++ rest') :
    blanks = blanks' ∧ rest = rest' :=
  token_cancel .doubleColon (fun _ => skipBlank_cons rfl _) same

theorem comma_cancel {blanks blanks' : Blanks} {rest rest' : List Char}
    (same : blanks.before "," ++ rest = blanks'.before "," ++ rest') :
    blanks = blanks' ∧ rest = rest' := by
  have start := congrArg skipBlank same
  simp only [Blanks.before, List.append_assoc, skipBlank_append] at start
  obtain rfl : rest = rest' := by simpa [skipBlank, isBlank] using start
  exact ⟨before_cancel same, rfl⟩

theorem StructName.unique {n n' : StructName} {rest rest' : List Char} (ends : EndsWord rest)
    (ends' : EndsWord rest') (same : n.text ++ rest = n'.text ++ rest') :
    n = n' ∧ rest = rest' := by
  simp only [StructName.text, List.append_assoc] at same
  obtain ⟨hBeforeAddress, hAddress, same⟩ := word_cancel n.address.toWord
    n'.address.toWord (.before_colons _ _) (.before_colons _ _) same
  obtain ⟨hBeforeModuleColons, same⟩ := colons_cancel same
  obtain ⟨hBeforeModule, hModule, same⟩ := word_cancel n.module n'.module (.before_colons _ _)
    (.before_colons _ _) same
  obtain ⟨hBeforeNameColons, same⟩ := colons_cancel same
  obtain ⟨hBeforeName, hName, rfl⟩ := word_cancel n.name n'.name ends ends' same
  have sameAddress : n.address = n'.address := Address.ext (congrArg Word.text hAddress)
  exact ⟨StructName.ext hBeforeAddress sameAddress hBeforeModuleColons hBeforeModule hModule
    hBeforeNameColons hBeforeName hName, rfl⟩

theorem Params.tags_ne_nil (p : Params) : p.tags ≠ [] := by
  cases p <;> simp [Params.tags]

/-- The tag and the rest are determined, because reading determines them. -/
theorem Derivation.tag_unique {d d' : Derivation} {rest rest' : List Char}
    (follows : Follows rest) (follows' : Follows rest')
    (same : d.text ++ rest = d'.text ++ rest') : d.tag = d'.tag ∧ rest = rest' := by
  have read := d.reads follows
  rw [same] at read
  exact read.unique (d'.reads follows')

mutual

/-- A text that starts with a derivation starts with no other one. -/
theorem Derivation.unique (d d' : Derivation) {rest rest' : List Char} (follows : Follows rest)
    (follows' : Follows rest') (same : d.text ++ rest = d'.text ++ rest') : d = d' := by
  obtain ⟨sameTag, rfl⟩ := Derivation.tag_unique follows follows' same
  cases d <;> cases d' <;>
    simp only [Derivation.tag, Tag.scalar.injEq, Tag.vector.injEq, Tag.struct.injEq, reduceCtorEq]
      at sameTag
  case scalar.scalar =>
    subst sameTag
    rw [before_cancel same]
  case vector.vector before beforeOpening element beforeClosing before' beforeOpening' element'
      beforeClosing' =>
    simp only [Derivation.text, List.append_assoc] at same
    obtain ⟨hBefore, -, afterWord⟩ := word_cancel .vector .vector (.before_opening _ _)
      (.before_opening _ _) same
    obtain ⟨hBeforeOpening, inside⟩ := opening_cancel afterWord
    obtain rfl := element.unique element' (.closing _ _) (.closing _ _) inside
    obtain ⟨hBeforeClosing, -⟩ := closing_cancel (List.append_cancel_left inside)
    rw [hBefore, hBeforeOpening, hBeforeClosing]
  case struct.struct =>
    obtain ⟨rfl, -⟩ := StructName.unique follows.endsWord follows'.endsWord same
    rfl
  case struct.applied _ _ params _ => exact absurd sameTag.2.symm params.tags_ne_nil
  case applied.struct _ _ params _ _ => exact absurd sameTag.2 params.tags_ne_nil
  case applied.applied name beforeOpening params beforeClosing name' beforeOpening' params'
      beforeClosing' =>
    simp only [Derivation.text, List.append_assoc] at same
    obtain ⟨hName, afterName⟩ := StructName.unique (.before_opening _ _) (.before_opening _ _) same
    obtain ⟨hBeforeOpening, inside⟩ := opening_cancel afterName
    obtain ⟨hParams, hBeforeClosing⟩ := params.unique params' inside
    rw [hName, hBeforeOpening, hParams, hBeforeClosing]

/-- The same of several derivations and the closing bracket. -/
theorem Params.unique (p p' : Params) {closing closing' : Blanks} {rest rest' : List Char}
    (same : p.text ++ (closing.before ">" ++ rest) = p'.text ++ (closing'.before ">" ++ rest')) :
    p = p' ∧ closing = closing' := by
  have read := p.reads closing rest
  rw [same] at read
  obtain ⟨sameTags, rfl⟩ := read.unique (p'.reads closing' rest')
  cases p <;> cases p' <;>
    simp only [Params.tags, List.cons.injEq, and_true] at sameTags
  case last.last param param' =>
    obtain rfl := param.unique param' (.closing _ _) (.closing _ _) same
    obtain ⟨hClosing, -⟩ := closing_cancel (List.append_cancel_left same)
    exact ⟨rfl, hClosing⟩
  case last.more _ _ _ others => exact absurd sameTags.2.symm others.tags_ne_nil
  case more.last _ _ others _ => exact absurd sameTags.2 others.tags_ne_nil
  case more.more param beforeComma others param' beforeComma' others' =>
    simp only [Params.text, List.append_assoc] at same
    obtain rfl := param.unique param' (.comma _ _) (.comma _ _) same
    obtain ⟨hBeforeComma, afterComma⟩ := comma_cancel (List.append_cancel_left same)
    obtain ⟨hOthers, hClosing⟩ := others.unique others' afterComma
    exact ⟨by rw [hBeforeComma, hOthers], hClosing⟩

end

/-- No text has two spellings. -/
theorem Spelling.text_injective : Function.Injective Spelling.text := by
  intro s s' same
  obtain ⟨-, sameAfter⟩ := Derivation.tag_unique (.blanks s.after) (.blanks s'.after) same
  exact Spelling.ext (s.derivation.unique s'.derivation (.blanks _) (.blanks _) same)
    (Blanks.ext sameAfter)

end MoveBindings.Tag.Grammar
