import MoveBindings.Proofs.TypeScript.AnyTypes

/-!
# Types and their base

The type of a tag is the type of its innermost element with a pair of brackets
for each array. So a type refers to a library name when it is that name or an
array of it, and to a module when its innermost element is a struct of the module.
-/

namespace MoveBindings

/-- What the arrays of a tag are made of in the end. -/
def Tag.innermost : Tag → Tag
  | .vector element => element.innermost
  | .scalar name => .scalar name
  | .struct name params => .struct name params
  | .unknown => .unknown

theorem Tag.innermost_ne_vector (tag element : Tag) : tag.innermost ≠ .vector element := by
  fun_induction Tag.innermost tag with
  | case1 inner ih => exact ih
  | case2 | case3 | case4 => nofun

namespace TypeScript

variable {known : ModuleMap} {tag : Tag} {type : String}

theorem blank_notMem_scalarType {name : String} (listed : name ∈ Tag.scalarNames) :
    ' ' ∉ (scalarType name).toList := by
  have none : ∀ name ∈ Tag.scalarNames, ' ' ∉ (scalarType name).toList := by decide
  exact none name listed

/-- The type of a well-formed tag is the one of its innermost element, with brackets. -/
theorem typeName_eq_innermost (formed : tag.WellFormed) :
    typeName known tag = typeName known tag.innermost ++ brackets tag.depth := by
  -- An array of a type without blanks is written without parentheses.
  suffices typeName known tag = typeName known tag.innermost ++ brackets tag.depth ∧
      ' ' ∉ (typeName known tag).toList from this.1
  induction formed with
  | scalar listed => exact ⟨String.append_empty.symm, blank_notMem_scalarType listed⟩
  | vector _ ih =>
    obtain ⟨shape, noBlank⟩ := ih
    rw [typeName, arrayOf, if_neg noBlank]
    constructor
    · rw [shape, Tag.innermost, Tag.depth, brackets, String.append_assoc]
    · rw [String.toList_append, List.mem_append, not_or]
      exact ⟨noBlank, by decide⟩
  | @struct name params _ _ _ module last _ _ =>
    refine ⟨String.append_empty.symm, ?_⟩
    unfold typeName
    split
    · have noBlank := blank_notMem_structType module last 0
      rwa [structType, brackets, String.append_empty] at noBlank
    · decide

theorem libraryTypes_innermost (tag : Tag) : libraryTypes tag.innermost = libraryTypes tag := by
  fun_induction Tag.innermost tag with
  | case1 element ih => exact ih
  | case2 | case3 | case4 => rfl

/-- No library has the name of a struct in its namespace, or `any`. -/
theorem ne_of_mem_libraries (name : QualifiedName) (library : type ∈ runtimeTypes ++ clientTypes) :
    type ≠ namespaceAlias name.module ++ "." ++ name.name ∧ type ≠ anyType := by
  have plain : ∀ type ∈ runtimeTypes ++ clientTypes, '$' ∉ type.toList ∧ type ≠ anyType := by
    decide
  obtain ⟨noDollar, notAny⟩ := plain type library
  refine ⟨?_, notAny⟩
  rintro rfl
  exact noDollar (by simp [namespaceAlias])

/-- A library name is used by the tags whose type is this name or an array of it. -/
theorem mem_libraryTypes_iff (formed : tag.WellFormed)
    (library : type ∈ runtimeTypes ++ clientTypes) :
    type ∈ libraryTypes tag ↔ typeName known tag = type ++ brackets tag.depth := by
  rw [typeName_eq_innermost formed, String.append_left_inj, ← libraryTypes_innermost]
  cases shape : tag.innermost with
  | scalar name =>
    rw [libraryTypes, typeName]
    split
    · rw [List.mem_singleton, eq_comm]
    · next other =>
      constructor
      · exact fun used => absurd used List.not_mem_nil
      · rintro rfl
        exact absurd library other
  | vector element => exact absurd shape (tag.innermost_ne_vector element)
  | struct name params =>
    obtain ⟨notStruct, notAny⟩ := ne_of_mem_libraries name library
    rw [libraryTypes, typeName]
    · constructor
      · exact fun used => absurd used List.not_mem_nil
      · split
        · exact fun same => absurd same.symm notStruct
        · exact fun same => absurd same.symm notAny
    · exact fun _ => Tag.noConfusion
    · exact fun _ => Tag.noConfusion
  | unknown =>
    constructor
    · exact fun used => absurd used List.not_mem_nil
    · exact fun same => absurd same.symm (ne_of_mem_libraries ⟨"", "", ""⟩ library).2

theorem modulesUsed_innermost (known : ModuleMap) (tag : Tag) :
    modulesUsed known tag.innermost = modulesUsed known tag := by
  fun_induction Tag.innermost tag with
  | case1 element ih => exact ih
  | case2 | case3 | case4 => rfl

/-- A module is used by the tags whose innermost element is a struct of it, when it is known. -/
theorem mem_modulesUsed_iff {id : ModuleId} :
    id ∈ modulesUsed known tag ↔
      ∃ name params, tag.innermost = .struct name params ∧ name.moduleId = id ∧
        known.contains id = true := by
  rw [← modulesUsed_innermost]
  cases shape : tag.innermost with
  | vector element => exact absurd shape (tag.innermost_ne_vector element)
  | scalar name => exact ⟨nofun, nofun⟩
  | unknown => exact ⟨nofun, nofun⟩
  | struct name params =>
    have here : modulesUsed known (.struct name params) =
        if known.contains name.moduleId then [name.moduleId] else [] := rfl
    rw [here]
    constructor
    · intro used
      split at used
      · next found =>
        cases List.mem_singleton.mp used
        exact ⟨name, params, rfl, rfl, found⟩
      · cases used
    · rintro ⟨_, _, same, rfl, found⟩
      cases same
      rw [if_pos found]
      exact List.mem_singleton_self _

end TypeScript

end MoveBindings
