import MoveBindings.Proofs.Outcomes
import MoveBindings.Proofs.Tag.Tokens

/-!
# The steps of the tag reader

A tag is read in one of four ways, a list of parameters in one of two. The
relations below name the steps of each way, and are equivalent to success of
the reader, so that nothing else has to open its definition.
-/

namespace MoveBindings.Tag.Grammar

open Text

theorem length_lt_of_skipBlank {text rest : List Char} {c : Char}
    (h : skipBlank text = c :: rest) : rest.length < text.length := by
  have bound := length_skipBlank_le text
  rw [h] at bound
  exact bound

theorem firstNonBlank?_of_skipBlank {text rest : List Char} {c : Char}
    (h : skipBlank text = c :: rest) :
    firstNonBlank? text = some ⟨c, rest, length_lt_of_skipBlank h⟩ :=
  firstNonBlank?_eq_some_iff.mpr h

/-- After a step that reads something, a reader goes on with what was read. -/
theorem Reads.bind_eq {α β : Type} {text rest : List Char} {value : α}
    {outcome : Except (Stop Problem) (Reading α text)} (h : Reads outcome value rest)
    (next : Reading α text → Except (Stop Problem) β) :
    (outcome >>= next) = next ⟨value, rest, h.shorter⟩ := by
  obtain ⟨⟨_, _, _⟩, rfl, rfl, rfl⟩ := h
  rfl

/-- The steps by which the name of a struct is read. -/
structure ReadsName (text : List Char) (name : QualifiedName) (rest : List Char) : Prop where
  notScalar : name.address ∉ scalarNames
  notVector : name.address ≠ vectorName
  steps : ∃ afterAddress beforeModule afterModule beforeName,
    Reads (Reader.word text) name.address afterAddress ∧
    Reads (Reader.token .doubleColon afterAddress) () beforeModule ∧
    Reads (Reader.word beforeModule) name.module afterModule ∧
    Reads (Reader.token .doubleColon afterModule) () beforeName ∧
    Reads (Reader.word beforeName) name.name rest

theorem ReadsName.shorter {text rest : List Char} {name : QualifiedName}
    (h : ReadsName text name rest) : rest.length < text.length := by
  obtain ⟨_, _, _, _, address, moduleColons, module, nameColons, last⟩ := h.steps
  have := address.shorter
  have := moduleColons.shorter
  have := module.shorter
  have := nameColons.shorter
  have := last.shorter
  omega

/-- The steps by which a tag is read. -/
inductive ReadsTag (text : List Char) : Tag → List Char → Prop where
  | scalar {name : String} {rest : List Char} (known : name ∈ scalarNames)
      (keyword : Reads (Reader.word text) name rest) : ReadsTag text (.scalar name) rest
  | vector {element : Tag} {afterWord inside afterElement rest : List Char}
      (keyword : Reads (Reader.word text) vectorName afterWord)
      (opening : Reads (Reader.token .opening afterWord) () inside)
      (body : Reads (Reader.tag inside) element afterElement)
      (closing : Reads (Reader.token .closing afterElement) () rest) :
      ReadsTag text (.vector element) rest
  | struct {name : QualifiedName} {rest : List Char} (named : ReadsName text name rest)
      (bare : (skipBlank rest).head? ≠ some '<') : ReadsTag text (.struct name []) rest
  | applied {name : QualifiedName} {params : List Tag} {afterName inside rest : List Char}
      (named : ReadsName text name afterName) (opening : skipBlank afterName = '<' :: inside)
      (body : Reads (Reader.tags inside) params rest) : ReadsTag text (.struct name params) rest

/-- The steps by which parameters are read, up to the closing bracket. -/
inductive ReadsTags (text : List Char) : List Tag → List Char → Prop where
  | last {first : Tag} {afterFirst rest : List Char}
      (param : Reads (Reader.tag text) first afterFirst)
      (alone : (skipBlank afterFirst).head? ≠ some ',')
      (closing : Reads (Reader.token .closing afterFirst) () rest) : ReadsTags text [first] rest
  | more {first : Tag} {others : List Tag} {afterFirst more rest : List Char}
      (param : Reads (Reader.tag text) first afterFirst)
      (comma : skipBlank afterFirst = ',' :: more)
      (body : Reads (Reader.tags more) others rest) : ReadsTags text (first :: others) rest

theorem head?_ne_of_firstNonBlank? {text : List Char} {c : Char}
    (h : ∀ rest shorter, firstNonBlank? text = some ⟨c, rest, shorter⟩ → False) :
    (skipBlank text).head? ≠ some c := by
  intro starts
  obtain ⟨rest, same⟩ := List.head?_eq_some_iff.mp starts
  exact h rest _ (firstNonBlank?_of_skipBlank same)

theorem readsTag_of_reads {text rest : List Char} {tag : Tag}
    (h : Reads (Reader.tag text) tag rest) : ReadsTag text tag rest := by
  obtain ⟨reading, h, rfl, rfl⟩ := h
  rw [Reader.tag] at h
  obtain ⟨⟨keyword, afterWord, _⟩, hword, h⟩ := exists_of_bind_eq_ok h
  dsimp only at h
  split at h
  · next known =>
    cases h
    exact .scalar known ⟨_, hword, rfl, rfl⟩
  · next notScalar =>
    split at h
    · next isVector =>
      subst isVector
      obtain ⟨⟨_, inside, _⟩, hopening, h⟩ := exists_of_bind_eq_ok h
      obtain ⟨⟨element, afterElement, _⟩, helement, h⟩ := exists_of_bind_eq_ok h
      obtain ⟨⟨_, rest, _⟩, hclosing, h⟩ := exists_of_bind_eq_ok h
      cases h
      exact .vector ⟨_, hword, rfl, rfl⟩ ⟨_, hopening, rfl, rfl⟩ ⟨_, helement, rfl, rfl⟩
        ⟨_, hclosing, rfl, rfl⟩
    · next notVector =>
      obtain ⟨⟨_, afterAddress, _⟩, hmoduleColons, h⟩ := exists_of_bind_eq_ok h
      obtain ⟨⟨module, afterModule, _⟩, hmodule, h⟩ := exists_of_bind_eq_ok h
      obtain ⟨⟨_, beforeName, _⟩, hnameColons, h⟩ := exists_of_bind_eq_ok h
      obtain ⟨⟨name, afterName, _⟩, hname, h⟩ := exists_of_bind_eq_ok h
      have named : ReadsName text ⟨keyword, module, name⟩ afterName :=
        ⟨notScalar, notVector, afterWord, afterAddress, afterModule, beforeName,
          ⟨_, hword, rfl, rfl⟩, ⟨_, hmoduleColons, rfl, rfl⟩, ⟨_, hmodule, rfl, rfl⟩,
          ⟨_, hnameColons, rfl, rfl⟩, ⟨_, hname, rfl, rfl⟩⟩
      dsimp only at h
      split at h
      · next inside _ opening =>
        obtain ⟨⟨params, rest, _⟩, hparams, h⟩ := exists_of_bind_eq_ok h
        cases h
        exact .applied named (firstNonBlank?_eq_some_iff.mp opening) ⟨_, hparams, rfl, rfl⟩
      · next bare =>
        cases h
        exact .struct named (head?_ne_of_firstNonBlank? bare)

theorem readsTags_of_reads {text rest : List Char} {params : List Tag}
    (h : Reads (Reader.tags text) params rest) : ReadsTags text params rest := by
  obtain ⟨reading, h, rfl, rfl⟩ := h
  rw [Reader.tags] at h
  obtain ⟨⟨first, afterFirst, _⟩, hfirst, h⟩ := exists_of_bind_eq_ok h
  dsimp only at h
  split at h
  · next more _ comma =>
    obtain ⟨⟨others, rest, _⟩, hothers, h⟩ := exists_of_bind_eq_ok h
    cases h
    exact .more ⟨_, hfirst, rfl, rfl⟩ (firstNonBlank?_eq_some_iff.mp comma)
      ⟨_, hothers, rfl, rfl⟩
  · next alone =>
    obtain ⟨⟨_, rest, _⟩, hclosing, h⟩ := exists_of_bind_eq_ok h
    cases h
    exact .last ⟨_, hfirst, rfl, rfl⟩ (head?_ne_of_firstNonBlank? alone) ⟨_, hclosing, rfl, rfl⟩

/-- Once its name is read, a struct goes on with parameters if an opening bracket comes next. -/
theorem tag_of_readsName {text afterName : List Char} {name : QualifiedName}
    (h : ReadsName text name afterName) (shorter : afterName.length < text.length) :
    Reader.tag text = match firstNonBlank? afterName with
      | some ⟨'<', inside, within⟩ => do
        let ⟨params, rest, later⟩ ← Reader.tags inside
        return ⟨.struct name params, rest, Nat.lt_trans later (Nat.lt_trans within shorter)⟩
      | _ => .ok ⟨.struct name [], afterName, shorter⟩ := by
  obtain ⟨notScalar, notVector, _, _, _, _, address, moduleColons, module, nameColons, last⟩ := h
  rw [Reader.tag]
  simp only [address.bind_eq, if_neg notScalar, if_neg notVector, moduleColons.bind_eq,
    module.bind_eq, nameColons.bind_eq, last.bind_eq]
  rfl

theorem reads_of_readsTag {text rest : List Char} {tag : Tag} (h : ReadsTag text tag rest) :
    Reads (Reader.tag text) tag rest := by
  cases h with
  | scalar known keyword =>
    rw [Reads, Reader.tag, keyword.bind_eq]
    exact ⟨_, if_pos known, rfl, rfl⟩
  | vector keyword opening body closing =>
    have notScalar : vectorName ∉ scalarNames := by decide
    rw [Reads, Reader.tag]
    simp only [keyword.bind_eq, if_neg notScalar, if_true, opening.bind_eq, body.bind_eq,
      closing.bind_eq]
    exact ⟨_, rfl, rfl, rfl⟩
  | struct named bare =>
    rw [Reads, tag_of_readsName named named.shorter]
    split
    · next opening =>
      have starts := firstNonBlank?_eq_some_iff.mp opening
      exact absurd (by rw [starts]; rfl) bare
    · exact ⟨_, rfl, rfl, rfl⟩
  | applied named opening body =>
    rw [Reads, tag_of_readsName named named.shorter, firstNonBlank?_of_skipBlank opening]
    simp only [body.bind_eq]
    exact ⟨_, rfl, rfl, rfl⟩

theorem reads_of_readsTags {text rest : List Char} {params : List Tag}
    (h : ReadsTags text params rest) : Reads (Reader.tags text) params rest := by
  rw [Reads, Reader.tags]
  cases h with
  | last param alone closing =>
    simp only [param.bind_eq]
    split
    · next comma =>
      have starts := firstNonBlank?_eq_some_iff.mp comma
      exact absurd (by rw [starts]; rfl) alone
    · simp only [closing.bind_eq]
      exact ⟨_, rfl, rfl, rfl⟩
  | more param comma body =>
    simp only [param.bind_eq, firstNonBlank?_of_skipBlank comma, body.bind_eq]
    exact ⟨_, rfl, rfl, rfl⟩

end MoveBindings.Tag.Grammar
