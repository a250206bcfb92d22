import MoveBindings.Proofs.ContainerShape
import MoveBindings.Proofs.Manifest

/-!
# What a lookup in an iterable table returns

An iterable table stores structs that link a value to the next key. Their type is
declared where the table's is, and it is made from the table's configured name
and not from the type of the field. Both agree: a text that is taken apart at
double colons is what its parts spell, and the name of a struct that was read is
taken apart into the parts it was made of. The latter needs that words have no
colons, for next to a double colon a single one changes where the text is cut.
-/

namespace MoveBindings

namespace QualifiedName

/-- Pieces with double colons between them. -/
def joined (pieces : List (List Char)) : List Char := [':', ':'].intercalate pieces

theorem joined_cons_cons (c : Char) (piece : List Char) (others : List (List Char)) :
    joined ((c :: piece) :: others) = c :: joined (piece :: others) := by
  cases others with
  | nil => simp [joined]
  | cons next others => simp [joined, List.intercalate_cons_cons]

theorem pieces_ne_nil (text : List Char) : pieces text ≠ [] := by
  fun_cases pieces text <;> simp_all

/-- Taking a text apart loses nothing. -/
theorem joined_pieces (text : List Char) : joined (pieces text) = text := by
  fun_induction pieces text with
  | case1 => rfl
  | case2 text ih =>
    obtain ⟨piece, others, shape⟩ := List.exists_cons_of_ne_nil (pieces_ne_nil text)
    rw [shape] at ih ⊢
    rw [joined, List.intercalate_cons_cons, ← joined, ih]
    rfl
  | case3 c text _ none ih =>
    exact absurd none (pieces_ne_nil text)
  | case4 c text _ piece others shape ih =>
    rw [joined_cons_cons, ← shape, ih]

/-- A text that spells a qualified name is the text of that name. -/
theorem text_of_read {text : String} {name : QualifiedName} (h : read text = .ok name) :
    name.text = text := by
  unfold read at h
  split at h
  · next address module last shape =>
    split at h
    · cases h
    · cases h
      have whole := joined_pieces text.toList
      rw [shape] at whole
      apply String.toList_inj.mp
      rw [← whole]
      simp [QualifiedName.text, joined]
  · cases h

/-- The converse needs parts without colons. -/
example : read (⟨"0x1:", "Coin", "Coin"⟩ : QualifiedName).text = .ok ⟨"0x1", ":Coin", "Coin"⟩ := by
  rfl

end QualifiedName

namespace Tag

/-- The parts of a tag: the tag itself, and the parts of its element or of its parameters. -/
inductive Contains : Tag → Tag → Prop where
  | itself (tag : Tag) : Contains tag tag
  | element {element part : Tag} (inner : Contains element part) : Contains (.vector element) part
  | param {name : QualifiedName} {params : List Tag} {param part : Tag} (member : param ∈ params)
      (inner : Contains param part) : Contains (.struct name params) part

/-- All parts of a well-formed tag are well formed. -/
theorem Contains.wellFormed {tag part : Tag} (h : tag.Contains part) (formed : tag.WellFormed) :
    part.WellFormed := by
  induction h with
  | itself => exact formed
  | element _ ih =>
    cases formed with
    | vector element => exact ih element
  | param member _ ih =>
    cases formed with
    | struct _ _ _ _ _ params => exact ih (params _ member)

/-- A struct's name can be replaced by another word. -/
theorem WellFormed.rename {name : QualifiedName} {params : List Tag}
    (h : (Tag.struct name params).WellFormed) {last : String} (word : IsWord last) :
    (Tag.struct { name with name := last } params).WellFormed := by
  cases h with
  | struct address notScalar notVector module _ formed =>
    exact .struct address notScalar notVector module word formed

end Tag

namespace ContainerField

open Tag

theorem lookupValue_of_iterableTable {name : QualifiedName} {result : ContainerField}
    (iterable : result.container = .iterableTable) (named : result.qualifiedName = name.text)
    (read : QualifiedName.read name.text = .ok name) :
    result.lookupValue =
      .ok (.struct { name with name := iterableValueName } [result.key, result.value]) := by
  rw [lookupValue, iterable, named, read]
  rfl

/-- A lookup in a field of an iterable table, whose type was read from a text, always has a type:
the struct that the module of the table declares for entries, with the parameters of the table. That
type can be written, and is read again. For a name in a type that was read is taken apart into its
own parts, and what is taken apart is always what the parts spell. -/
theorem lookup_value_from_own_container :
    (∀ (text : String) (tag : Tag), Tag.read text = .ok tag →
      ∀ (fieldName qualifiedName owner : String) (module : Option ModuleId)
        (result : ContainerField),
        ofField .iterableTable ⟨fieldName, tag⟩ qualifiedName owner module = .ok result →
          ∃ name key value, tag = .struct name [key, value] ∧
            let entry := Tag.struct { name with name := iterableValueName } [key, value]
            result.lookupValue = .ok entry ∧ entry.text? = some entry.text ∧
              Tag.read entry.text = .ok entry) ∧
    (∀ (text : String) (tag : Tag), Tag.read text = .ok tag →
      ∀ (name : QualifiedName) (params : List Tag), tag.Contains (.struct name params) →
        QualifiedName.read name.text = .ok name) ∧
    ∀ (text : String) (name : QualifiedName), QualifiedName.read text = .ok name →
      name.text = text := by
  refine ⟨?_, ?_, fun text name => QualifiedName.text_of_read⟩
  · intro text tag read fieldName qualifiedName owner module result found
    have formed := wellFormed_of_read read
    obtain ⟨name, shape, named, iterable⟩ := exists_shape_of_ofField found
    have struct : tag = .struct name [result.key, result.value] := shape
    rw [struct] at formed
    have word : IsWord iterableValueName := by decide
    have entry := formed.rename word
    exact ⟨name, result.key, result.value, struct,
      lookupValue_of_iterableTable iterable named formed.read_name, if_pos entry.isKnown,
      read_text_of_wellFormed entry⟩
  · intro text tag read name params part
    exact (part.wellFormed (wellFormed_of_read read)).read_name

/-- A shelf of coins, declared elsewhere than the standard container. -/
theorem lookup_value_from_own_container_shelf :
    let name : QualifiedName := ⟨"0x2", "Shelf", "Shelf"⟩
    let coin : Tag := .struct ⟨"0x1", "Coin", "Coin"⟩ []
    let tag : Tag := .struct name [.scalar "u64", coin]
    let shelf : ContainerField :=
      ⟨.iterableTable, "items", .scalar "u64", coin, "0x2::Shelf::Shelf", "Store"⟩
    let entry : Tag := .struct ⟨"0x2", "Shelf", "IterableValue"⟩ [.scalar "u64", coin]
    Tag.read "0x2::Shelf::Shelf<u64, 0x1::Coin::Coin>" = .ok tag ∧
      ofField .iterableTable ⟨"items", tag⟩ "0x2::Shelf::Shelf" "Store" = .ok shelf ∧
      shelf.lookupValue = .ok entry ∧
      Tag.read "0x2::Shelf::IterableValue<u64, 0x1::Coin::Coin>" = .ok entry ∧
      QualifiedName.read "0x1::Coin::Coin" = .ok ⟨"0x1", "Coin", "Coin"⟩ := by
  intro name coin tag shelf entry
  have words : IsWord "0x1" ∧ IsWord "0x2" ∧ IsWord "Coin" ∧ IsWord "Shelf" := by decide
  obtain ⟨standard, own, coins, shelves⟩ := words
  have formed : tag.WellFormed := by
    refine .struct own (by decide) (by decide) shelves shelves ?_
    intro param member
    simp only [List.mem_cons, List.not_mem_nil, or_false] at member
    rcases member with rfl | rfl
    · exact .scalar (by decide)
    · exact .struct standard (by decide) (by decide) coins coins nofun
  have spelled : tag.text = "0x2::Shelf::Shelf<u64, 0x1::Coin::Coin>" := by decide +kernel
  have read : Tag.read "0x2::Shelf::Shelf<u64, 0x1::Coin::Coin>" = .ok tag := by
    rw [← spelled]
    exact read_text_of_wellFormed formed
  have found : ofField .iterableTable ⟨"items", tag⟩ "0x2::Shelf::Shelf" "Store" = .ok shelf := by
    rfl
  obtain ⟨own, key, value, shape, looked, _, again⟩ :=
    lookup_value_from_own_container.1 _ tag read "items" "0x2::Shelf::Shelf" "Store" none shelf
      found
  simp only [tag, Tag.struct.injEq, List.cons.injEq, and_true] at shape
  obtain ⟨rfl, rfl, rfl⟩ := shape
  exact ⟨read, found, looked, again, lookup_value_from_own_container.2.1 _ tag read _ _
    (.param (List.mem_cons_of_mem _ List.mem_cons_self) (.itself coin))⟩

end ContainerField

end MoveBindings
