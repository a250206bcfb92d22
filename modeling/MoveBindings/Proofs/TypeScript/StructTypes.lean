import MoveBindings.Proofs.Tag.RoundTrip
import MoveBindings.TypeScript.TypeName

/-!
# Types that name a struct

The type of a tag names at most one struct: the one that the tag is, or is made
an array of, when its module is known. It is then written as the namespace of
the module, a dot, the name of the struct, and a pair of brackets for each array.
-/

namespace MoveBindings

/-- How many arrays a tag is made of around its innermost element. -/
def Tag.depth : Tag → Nat
  | .vector element => element.depth + 1
  | .scalar _ | .struct _ _ | .unknown => 0

theorem namespaceAlias_injective : Function.Injective namespaceAlias :=
  fun _ _ same => (String.append_left_inj "$_").mp same

theorem dollar_mem_namespaceAlias (name : String) : '$' ∈ (namespaceAlias name).toList := by
  simp [namespaceAlias]

namespace TypeScript

/-- The struct of a known module that the type of a tag names. -/
def namedStruct? (known : ModuleMap) : Tag → Option QualifiedName
  | .vector element => namedStruct? known element
  | .struct name _ => if known.contains name.moduleId then some name else none
  | .scalar _ | .unknown => none

/-- Pairs of brackets. -/
def brackets : Nat → String
  | 0 => ""
  | depth + 1 => brackets depth ++ "[]"

/-- The type of arrays of a struct that is found in a namespace. -/
def structType (name : QualifiedName) (depth : Nat) : String :=
  namespaceAlias name.module ++ "." ++ name.name ++ brackets depth

variable {known : ModuleMap} {tag : Tag} {name : QualifiedName}

/-- The type of a tag refers to the module of the struct that it names, and to no other. -/
theorem modulesUsed_eq (known : ModuleMap) (tag : Tag) :
    modulesUsed known tag = ((namedStruct? known tag).map QualifiedName.moduleId).toList := by
  fun_induction namedStruct? known tag with
  | case1 element ih => exact ih
  | case2 name params found => simp [modulesUsed, found]
  | case3 name params missing => simp [modulesUsed, missing]
  | case4 | case5 => rfl

theorem blank_notMem_brackets (depth : Nat) : ' ' ∉ (brackets depth).toList := by
  induction depth with
  | zero => decide
  | succ depth ih =>
    rw [brackets, String.toList_append, List.mem_append, not_or]
    exact ⟨ih, by decide⟩

/-- There are no blanks in a word. -/
theorem blank_notMem_of_isWord {text : String} (word : Tag.IsWord text) : ' ' ∉ text.toList := by
  intro found
  have blank : Text.isWordChar ' ' = false := by decide
  cases (word.2 ' ' found).symm.trans blank

theorem blank_notMem_structType (module : Tag.IsWord name.module) (last : Tag.IsWord name.name)
    (depth : Nat) : ' ' ∉ (structType name depth).toList := by
  simp only [structType, namespaceAlias, String.toList_append, List.mem_append, not_or]
  exact ⟨⟨⟨⟨blank_notMem_of_isWord module, by decide⟩, by decide⟩, blank_notMem_of_isWord last⟩,
    blank_notMem_brackets depth⟩

/-- The type of a well-formed tag that names a struct. -/
theorem typeName_of_namedStruct? (formed : tag.WellFormed)
    (named : namedStruct? known tag = some name) :
    typeName known tag = structType name tag.depth := by
  -- An array of a type without blanks is written without parentheses.
  suffices typeName known tag = structType name tag.depth ∧
      ' ' ∉ (structType name tag.depth).toList from this.1
  induction formed with
  | scalar => cases named
  | vector _ ih =>
    obtain ⟨shape, noBlank⟩ := ih named
    constructor
    · rw [typeName, shape, arrayOf, if_neg noBlank, structType, structType, Tag.depth, brackets]
      exact String.append_assoc
    · rw [Tag.depth, structType, brackets, ← String.append_assoc, String.toList_append,
        List.mem_append, not_or]
      exact ⟨noBlank, by decide⟩
  | @struct other params _ _ _ module last _ _ =>
    unfold namedStruct? at named
    split at named
    · next found =>
      cases named
      refine ⟨?_, blank_notMem_structType module last _⟩
      rw [typeName, if_pos found, structType, Tag.depth, brackets, String.append_empty]
    · cases named

end TypeScript

end MoveBindings
