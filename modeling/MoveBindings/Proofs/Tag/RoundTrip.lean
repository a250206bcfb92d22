import MoveBindings.Proofs.Tag.Language

/-!
# Reading undoes writing

The canonical text of a well-formed tag is one of its spellings: no blanks
anywhere but one space after each comma. So it is read as that tag. Conversely
every tag that can be read is well formed, and its canonical text has the same
characters as the text it was read from, except for the blanks.
-/

namespace MoveBindings.Tag

open Text Grammar

/-- A word: word characters, at least one. -/
def IsWord (text : String) : Prop := text.toList ≠ [] ∧ ∀ c ∈ text.toList, isWordChar c

instance (text : String) : Decidable (IsWord text) :=
  decidable_of_iff (text.toList ≠ [] ∧ text.toList.all isWordChar = true) <| by
    rw [List.all_eq_true]
    rfl

/-- Tags whose scalars have names, and whose structs are named by words with an address that is no
keyword. The unknown type is none of them. -/
inductive WellFormed : Tag → Prop where
  | scalar {name : String} (known : name ∈ scalarNames) : WellFormed (.scalar name)
  | vector {element : Tag} (formed : WellFormed element) : WellFormed (.vector element)
  | struct {name : QualifiedName} {params : List Tag} (address : IsWord name.address)
      (notScalar : name.address ∉ scalarNames) (notVector : name.address ≠ vectorName)
      (module : IsWord name.module) (last : IsWord name.name)
      (formed : ∀ param ∈ params, WellFormed param) : WellFormed (.struct name params)

theorem WellFormed.isKnown {tag : Tag} (h : tag.WellFormed) : tag.isKnown = true := by
  induction h with
  | scalar => rfl
  | vector _ known => exact known
  | struct _ _ _ _ _ _ known =>
    rw [Tag.isKnown, areKnown_eq_all, List.all_eq_true]
    exact known

/-! ## The canonical text is a spelling -/

/-- One space. -/
def space : Blanks := ⟨[' '], List.all_eq_true.mp (by decide)⟩

/-- The name of a struct with blanks before its first token only. -/
def compactName (before : Blanks) (address : Address) (module name : Word) : StructName where
  beforeAddress := before
  address := address
  beforeModuleColons := .none
  beforeModule := .none
  module := module
  beforeNameColons := .none
  beforeName := .none
  name := name

theorem text_compactName (before : Blanks) (address : Address) (module name : Word) :
    (compactName before address module name).text =
      before.text ++ (compactName before address module name).qualified.text.toList := by
  simp [StructName.text, StructName.qualified, compactName, QualifiedName.text, Blanks.before,
    Blanks.none]

/-- Some derivation of a tag has its canonical text after given blanks. -/
def HasCompact (tag : Tag) : Prop :=
  ∀ before : Blanks, ∃ d : Derivation, d.tag = tag ∧ d.text = before.text ++ tag.text.toList

theorem exists_compact_params {first : Tag} {others : List Tag}
    (compact : ∀ param ∈ first :: others, HasCompact param) (before : Blanks) :
    ∃ p : Params, p.tags = first :: others ∧
      p.text = before.text ++ (", ".intercalate ((first :: others).map text)).toList := by
  induction others generalizing first before with
  | nil =>
    obtain ⟨d, rfl, spelled⟩ := compact first (by simp) before
    exact ⟨.last d, rfl, by simpa [Params.text] using spelled⟩
  | cons second others ih =>
    obtain ⟨d, rfl, spelled⟩ := compact first (by simp) before
    obtain ⟨p, tags, rest⟩ := ih (fun param member => compact param (.tail _ member)) space
    refine ⟨.more d .none p, by rw [Params.tags, tags], ?_⟩
    rw [Params.text, spelled, rest, List.map_cons, List.map_cons, List.map_cons,
      String.intercalate_cons_cons]
    simp [Blanks.before, Blanks.none, space]

theorem WellFormed.hasCompact {tag : Tag} (h : tag.WellFormed) : HasCompact tag := by
  induction h with
  | @scalar name known => exact fun before => ⟨.scalar before name known, rfl, rfl⟩
  | vector _ compact =>
    intro before
    obtain ⟨d, rfl, spelled⟩ := compact .none
    refine ⟨.vector before .none d .none, rfl, ?_⟩
    simp [Derivation.text, Tag.text, spelled, Blanks.before, Blanks.none]
  | @struct name params address notScalar notVector module last _ compact =>
    intro before
    let spelledName := compactName before ⟨⟨name.address, address.1, address.2⟩, notScalar,
      notVector⟩ ⟨name.module, module.1, module.2⟩ ⟨name.name, last.1, last.2⟩
    have nameText : spelledName.text = before.text ++ name.text.toList := text_compactName _ _ _ _
    cases params with
    | nil =>
      refine ⟨.struct spelledName, rfl, ?_⟩
      rw [Derivation.text, nameText]
      simp [Tag.text, texts, angled]
    | cons first others =>
      obtain ⟨p, tags, spelled⟩ := exists_compact_params compact .none
      refine ⟨.applied spelledName .none p .none, ?_, ?_⟩
      · rw [Derivation.tag, tags]
        rfl
      · rw [Derivation.text, nameText, spelled, Tag.text, texts_eq_map]
        simp [angled, Blanks.before, Blanks.none]

theorem read_text_of_wellFormed {tag : Tag} (h : tag.WellFormed) : Tag.read tag.text = .ok tag := by
  obtain ⟨d, rfl, spelled⟩ := h.hasCompact .none
  exact read_eq_ok_iff.mpr ⟨⟨d, .none⟩, by simp [Spelling.text, spelled, Blanks.none], rfl⟩

/-! ## What is read is well formed -/

theorem Grammar.Word.isWord (w : Word) : IsWord w.text := ⟨w.nonempty, w.chars⟩

theorem Grammar.StructName.wellFormed (n : StructName) {params : List Tag}
    (formed : ∀ param ∈ params, param.WellFormed) :
    (Tag.struct n.qualified params).WellFormed :=
  .struct n.address.isWord n.address.notScalar n.address.notVector n.module.isWord n.name.isWord
    formed

mutual

theorem Grammar.Derivation.wellFormed : (d : Derivation) → d.tag.WellFormed
  | .scalar _ _ known => .scalar known
  | .vector _ _ element _ => .vector element.wellFormed
  | .struct name => name.wellFormed (by simp)
  | .applied name _ params _ => name.wellFormed params.wellFormed

theorem Grammar.Params.wellFormed : (p : Params) → ∀ tag ∈ p.tags, tag.WellFormed
  | .last param => by simpa [Params.tags] using param.wellFormed
  | .more param _ others => by
    simpa [Params.tags] using ⟨param.wellFormed, others.wellFormed⟩

end

theorem wellFormed_of_read {text : String} {tag : Tag} (h : Tag.read text = .ok tag) :
    tag.WellFormed := by
  obtain ⟨⟨derivation, after⟩, _, rfl⟩ := read_eq_ok_iff.mp h
  exact derivation.wellFormed

/-! ## Only blanks differ -/

/-- A text without its blanks. -/
def unblanked (text : List Char) : List Char := text.filter fun c => !isBlank c

@[simp] theorem unblanked_nil : unblanked [] = [] := rfl

@[simp] theorem unblanked_cons (c : Char) (text : List Char) :
    unblanked (c :: text) = if isBlank c then unblanked text else c :: unblanked text := by
  cases blank : isBlank c <;> simp [unblanked, blank]

@[simp] theorem unblanked_append (a b : List Char) :
    unblanked (a ++ b) = unblanked a ++ unblanked b :=
  List.filter_append ..

@[simp] theorem unblanked_blanks (blanks : Blanks) : unblanked blanks.text = [] := by
  rw [unblanked, List.filter_eq_nil_iff]
  intro c member
  simp [blanks.blank c member]

@[simp] theorem unblanked_before (blanks : Blanks) (token : String) :
    unblanked (blanks.before token) = unblanked token.toList := by
  simp [Blanks.before]

theorem Grammar.StructName.unblanked_text (n : StructName) :
    unblanked n.text = unblanked n.qualified.text.toList := by
  simp [StructName.text, StructName.qualified, QualifiedName.text, isBlank]

mutual

theorem Grammar.Derivation.unblanked_text (d : Derivation) :
    unblanked d.text = unblanked d.tag.text.toList := by
  cases d with
  | scalar before name _ => exact unblanked_before before name
  | vector before beforeOpening element beforeClosing =>
    simp [Derivation.text, Derivation.tag, Tag.text, element.unblanked_text, isBlank]
  | struct name =>
    simp [Derivation.text, Derivation.tag, Tag.text, texts, angled, name.unblanked_text]
  | applied name beforeOpening params beforeClosing =>
    simp [Derivation.text, Derivation.tag, Tag.text, texts_eq_map, angled, params.tags_ne_nil,
      name.unblanked_text, params.unblanked_text, isBlank]

theorem Grammar.Params.unblanked_text (p : Params) :
    unblanked p.text = unblanked (", ".intercalate (p.tags.map text)).toList := by
  cases p with
  | last param => simpa [Params.text, Params.tags] using param.unblanked_text
  | more param beforeComma others =>
    have some : others.tags.map text ≠ [] := by simp [others.tags_ne_nil]
    rw [Params.tags, List.map_cons, String.intercalate_cons_of_ne_nil some]
    simp [Params.text, param.unblanked_text, others.unblanked_text, isBlank]

end

/-- Reading undoes writing. Every well-formed tag is read from its canonical text; and every tag
that is read is well formed, is read again from its canonical text, and that text differs from the
one it was read from in blanks only. -/
theorem read_text_round_trip :
    (∀ tag : Tag, tag.WellFormed → tag.text? = some tag.text ∧ Tag.read tag.text = .ok tag) ∧
    ∀ (text : String) (tag : Tag), Tag.read text = .ok tag →
      tag.WellFormed ∧ Tag.read tag.text = .ok tag ∧
        unblanked tag.text.toList = unblanked text.toList := by
  constructor
  · intro tag formed
    exact ⟨if_pos formed.isKnown, read_text_of_wellFormed formed⟩
  · intro text tag h
    obtain ⟨⟨derivation, after⟩, spelled, rfl⟩ := read_eq_ok_iff.mp h
    have formed := derivation.wellFormed
    refine ⟨formed, read_text_of_wellFormed formed, ?_⟩
    rw [← spelled]
    simp [Spelling.text, Spelling.tag, derivation.unblanked_text]

theorem read_text_round_trip_nested :
    (Tag.struct ⟨"0x1", "Table", "Table"⟩ [.scalar "u64", .vector (.scalar "u8")]).WellFormed ∧
    Tag.read "0x1::Table::Table<u64, vector<u8>>" =
      .ok (.struct ⟨"0x1", "Table", "Table"⟩ [.scalar "u64", .vector (.scalar "u8")]) := by
  have formed :
      (Tag.struct ⟨"0x1", "Table", "Table"⟩ [.scalar "u64", .vector (.scalar "u8")]).WellFormed := by
    refine .struct (by decide) (by decide) (by decide) (by decide) (by decide) ?_
    intro param member
    simp only [List.mem_cons, List.not_mem_nil, or_false] at member
    rcases member with rfl | rfl
    · exact .scalar (by decide)
    · exact .vector (.scalar (by decide))
  have read := (read_text_round_trip.1 _ formed).2
  exact ⟨(read_text_round_trip.2 _ _ read).1, read⟩

end MoveBindings.Tag
