import MoveBindings.Proofs.Text.Words
import MoveBindings.Proofs.TypeScript.StructTypes

/-!
# Types with the word `any` in them

The type of a tag is `any`, or an array of it, when the innermost element of the
tag is a struct of a module that is not known. The word `any` is in that type, and
it is in no other but those that name a struct called `any` or one in a module of
that name.
-/

namespace MoveBindings.TypeScript

open Text

/-- Whether the innermost element of a tag is a struct of a module that is not known. -/
def isUntyped (known : ModuleMap) : Tag → Bool
  | .vector element => isUntyped known element
  | .struct name _ => !known.contains name.moduleId
  | .scalar _ | .unknown => false

/-- Whether the type of a tag names a struct that is called `any` or lies in a module called so. -/
def namesAny (known : ModuleMap) (tag : Tag) : Bool :=
  (namedStruct? known tag).any fun name => name.module == anyType || name.name == anyType

variable {known : ModuleMap} {tag : Tag} {name : QualifiedName}

theorem namesAny_eq_false_iff :
    namesAny known tag = false ↔ ∀ name, namedStruct? known tag = some name →
      name.module ≠ "any" ∧ name.name ≠ "any" := by
  unfold namesAny
  cases namedStruct? known tag with
  | none => simp
  | some name => simp [anyType]

/-- A type that falls back to `any` names no struct. -/
theorem namesAny_of_isUntyped (untyped : isUntyped known tag = true) :
    namesAny known tag = false := by
  have none : namedStruct? known tag = none := by
    fun_induction isUntyped known tag with
    | case1 element ih => exact ih untyped
    | case2 name params => exact if_neg (by simpa using untyped)
    | case3 | case4 => cases untyped
  rw [namesAny, none, Option.any_none]

/-! ## Words of types -/

/-- Neither brackets nor parentheses change the words of a type. -/
theorem words_arrayOf (element : String) :
    words (arrayOf element).toList = words element.toList := by
  have none : ∀ c ∈ [')', '[', ']'], isWordChar c = false := by
    simp only [List.forall_mem_cons]
    exact ⟨by decide, by decide, by decide, List.forall_mem_nil _⟩
  unfold arrayOf
  split
  · have start := words_append_cons (by decide : isWordChar '(' = false) [] (element.toList)
    have finish := words_append_of_none none ('(' :: element.toList)
    simp only [String.toList_append]
    exact finish.trans start
  · rw [String.toList_append]
    exact words_append_of_none (fun c member => none c (List.mem_cons_of_mem _ member)) _

/-- The type of a struct has three words: the two of its namespace, and its name. -/
theorem words_structType (module : Tag.IsWord name.module) (last : Tag.IsWord name.name) :
    words (namespaceAlias name.module ++ "." ++ name.name).toList =
      [name.module.toList, ['_'], name.name.toList] := by
  have spelled : (namespaceAlias name.module ++ "." ++ name.name).toList =
      name.module.toList ++ '$' :: (['_'] ++ '.' :: name.name.toList) := by
    simp [namespaceAlias]
  have low : words ['_'] = [['_']] := by decide
  rw [spelled, words_append_cons (by decide), words_append_cons (by decide),
    words_eq_singleton module.1 module.2, words_eq_singleton last.1 last.2, low]
  rfl

theorem mentionsAny_structType (module : Tag.IsWord name.module) (last : Tag.IsWord name.name) :
    mentionsAny (namespaceAlias name.module ++ "." ++ name.name) =
      (name.module == anyType || name.name == anyType) := by
  have same (text : String) : (anyType.toList == text.toList) = (text == anyType) := by
    rw [Bool.eq_iff_iff, beq_iff_eq, beq_iff_eq, String.toList_inj]
    exact eq_comm
  have low : (anyType.toList == ['_']) = false := by decide
  rw [mentionsAny, words_structType module last, List.contains_cons, List.contains_cons,
    List.contains_cons, List.contains_nil, same, same, low, Bool.false_or, Bool.or_false]

/-- A type mentions `any` when it falls back to it, or names a struct of that name or in a module
of that name. -/
theorem mentionsAny_typeName (formed : tag.WellFormed) :
    mentionsAny (typeName known tag) = (isUntyped known tag || namesAny known tag) := by
  induction formed with
  | @scalar name listed =>
    have none : ∀ name ∈ Tag.scalarNames, mentionsAny (scalarType name) = false := by decide
    exact none name listed
  | vector _ ih =>
    rw [typeName, mentionsAny, words_arrayOf]
    exact ih
  | @struct name params _ _ _ module last _ _ =>
    rw [typeName, isUntyped, namesAny, namedStruct?]
    by_cases found : known.contains name.moduleId
    · rw [if_pos found, if_pos found, found, mentionsAny_structType module last]
      rfl
    · have fallback : mentionsAny anyType = true := by decide
      rw [if_neg found, if_neg found, eq_false_of_ne_true found, fallback]
      rfl

/-! ## Types that are `any` -/

theorem blank_notMem_anyType (depth : Nat) : ' ' ∉ (anyType ++ brackets depth).toList := by
  rw [String.toList_append, List.mem_append, not_or]
  exact ⟨by decide, blank_notMem_brackets depth⟩

theorem typeName_of_isUntyped (untyped : isUntyped known tag = true) :
    typeName known tag = anyType ++ brackets tag.depth := by
  fun_induction isUntyped known tag with
  | case1 element ih =>
    rw [typeName, ih untyped, arrayOf, if_neg (blank_notMem_anyType _), Tag.depth, brackets,
      String.append_assoc]
  | case2 name params =>
    rw [typeName, if_neg (by simpa using untyped), Tag.depth, brackets, String.append_empty]
  | case3 | case4 => cases untyped

theorem bracket_of_mem_brackets {c : Char} {depth : Nat} (member : c ∈ (brackets depth).toList) :
    c = '[' ∨ c = ']' := by
  induction depth with
  | zero => cases member
  | succ depth ih =>
    rw [brackets, String.toList_append, List.mem_append] at member
    rcases member with inner | outer
    · exact ih inner
    · simpa using outer

theorem mentionsAny_anyType (depth : Nat) : mentionsAny (anyType ++ brackets depth) = true := by
  have none : ∀ c ∈ (brackets depth).toList, isWordChar c = false := by
    intro c member
    rcases bracket_of_mem_brackets member with rfl | rfl <;> decide
  have fallback : (words anyType.toList).contains anyType.toList = true := by decide
  rw [mentionsAny, String.toList_append, words_append_of_none none, fallback]

theorem structType_ne_anyType (name : QualifiedName) (depth depth' : Nat) :
    structType name depth ≠ anyType ++ brackets depth' := by
  intro same
  have dollar : '$' ∈ (structType name depth).toList := by simp [structType, namespaceAlias]
  rw [same, String.toList_append, List.mem_append] at dollar
  rcases dollar with word | bracket
  · exact absurd word (by decide)
  · rcases bracket_of_mem_brackets bracket with impossible | impossible <;>
      exact absurd impossible (by decide)

/-- The types that fall back to `any` are `any` and its arrays. -/
theorem isUntyped_iff (formed : tag.WellFormed) :
    isUntyped known tag = true ↔ typeName known tag = anyType ++ brackets tag.depth := by
  refine ⟨typeName_of_isUntyped, fun same => ?_⟩
  have mentioned : mentionsAny (typeName known tag) = _ := mentionsAny_typeName formed
  rw [same, mentionsAny_anyType, eq_comm, Bool.or_eq_true] at mentioned
  rcases mentioned with untyped | names
  · exact untyped
  · obtain ⟨name, named⟩ := Option.isSome_iff_exists.mp (Option.isSome_of_any names)
    rw [typeName_of_namedStruct? formed named] at same
    exact absurd same (structType_ne_anyType name _ _)

end MoveBindings.TypeScript
