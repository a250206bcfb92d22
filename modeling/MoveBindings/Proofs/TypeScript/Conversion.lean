import Mathlib.Data.List.Sort
import MoveBindings.Emission.AliasFile
import MoveBindings.Proofs.Text.Sorted
import MoveBindings.Proofs.TypeScript.BaseTypes

/-!
# Types made in one pass

The type of a tag and the names that it refers to are made in one pass. The text is
the base of the innermost element and a pair of brackets for each array; what was
collected before has no influence on it. What is collected is the base, when a
library has it, or the module of the struct that the base names. A larger list of
known modules makes a difference only to tags whose base is `any`.
-/

namespace MoveBindings.TypeScript

variable {known larger : ModuleMap} {tag : Tag} {base : String}

/-- The scalars with their bases. -/
def scalarBases : List (String × String) :=
  [ ("bool", "boolean"), ("u8", "U8"), ("u16", "U16"), ("u32", "U32"), ("u64", "U64"),
    ("u128", "U128"), ("u256", "U256"), ("address", "HexString"), ("signer", "HexString") ]

/-- The base of a type, by the innermost element of the tag. -/
inductive HasBase (known : ModuleMap) : Tag → String → Prop where
  | scalar {name base : String} (listed : (name, base) ∈ scalarBases) :
      HasBase known (.scalar name) base
  | found {name : QualifiedName} {params : List Tag}
      (found : known.contains name.moduleId = true) :
      HasBase known (.struct name params) (name.module ++ "$_." ++ name.name)
  | missing {name : QualifiedName} {params : List Tag}
      (missing : known.contains name.moduleId = false) :
      HasBase known (.struct name params) "any"

/-! ## Bases -/

/-- The scalars that are listed are all scalars, each with its type. -/
theorem mem_scalarBases_iff {name : String} :
    (name, base) ∈ scalarBases ↔ name ∈ Tag.scalarNames ∧ scalarType name = base := by
  have typed : Tag.scalarNames.map (fun name => (name, scalarType name)) = scalarBases := by decide
  rw [← typed, List.mem_map]
  constructor
  · rintro ⟨_, listed, same⟩
    cases same
    exact ⟨listed, rfl⟩
  · rintro ⟨listed, rfl⟩
    exact ⟨name, listed, rfl⟩

theorem innermost_wellFormed (formed : tag.WellFormed) : tag.innermost.WellFormed := by
  induction formed with
  | scalar listed => exact .scalar listed
  | vector _ ih => exact ih
  | struct address notScalar notVector module last params =>
    exact .struct address notScalar notVector module last params

theorem namespaceAlias_dot (module : String) : namespaceAlias module ++ "." = module ++ "$_." :=
  String.append_assoc

theorem typeName_struct (known : ModuleMap) (name : QualifiedName) (params : List Tag) :
    typeName known (.struct name params) =
      if known.contains name.moduleId then name.module ++ "$_." ++ name.name else "any" := by
  rw [typeName, namespaceAlias_dot]
  rfl

/-- The base is the type of the innermost element. -/
theorem hasBase_innermost (known : ModuleMap) (formed : tag.WellFormed) :
    HasBase known tag.innermost (typeName known tag.innermost) := by
  have inner := innermost_wellFormed formed
  cases shape : tag.innermost with
  | scalar name =>
    rw [shape] at inner
    cases inner with
    | scalar listed => exact .scalar (mem_scalarBases_iff.mpr ⟨listed, rfl⟩)
  | vector element => exact absurd shape (tag.innermost_ne_vector element)
  | struct name params =>
    rw [typeName_struct]
    split
    · next found => exact .found found
    · next missing => exact .missing (eq_false_of_ne_true missing)
  | unknown =>
    rw [shape] at inner
    cases inner

namespace HasBase

variable {inner : Tag} {base' : String}

/-- The base is `any` for structs of modules that are not known, and for nothing else. -/
theorem eq_any_iff (h : HasBase known inner base) :
    base = "any" ↔
      ∃ name params, inner = .struct name params ∧ known.contains name.moduleId = false := by
  cases h with
  | scalar listed =>
    have typed : ∀ entry ∈ scalarBases, entry.2 ≠ "any" := by decide
    exact ⟨fun any => absurd any (typed _ listed), nofun⟩
  | @found name params found =>
    constructor
    · intro any
      have dollar : '$' ∈ (name.module ++ "$_." ++ name.name).toList := by simp
      rw [any] at dollar
      exact absurd dollar (by decide)
    · rintro ⟨_, _, same, missing⟩
      cases same
      exact absurd (found.symm.trans missing) nofun
  | @missing name params missing => exact iff_of_true rfl ⟨name, params, rfl, missing⟩

/-- The library name that is used is the base, when it is one. -/
theorem mem_libraryTypes_iff (h : HasBase known inner base) {type : String} :
    type ∈ libraryTypes inner ↔ type = base ∧ base ∈ runtimeTypes ++ clientTypes := by
  have foreign (notLibrary : base ∉ runtimeTypes ++ clientTypes) :
      type ∈ ([] : List String) ↔ type = base ∧ base ∈ runtimeTypes ++ clientTypes :=
    iff_of_false List.not_mem_nil fun both => notLibrary both.2
  cases h with
  | scalar listed =>
    obtain ⟨_, rfl⟩ := mem_scalarBases_iff.mp listed
    rw [libraryTypes]
    split
    · next library => rw [List.mem_singleton, and_iff_left library]
    · next other => exact foreign other
  | @found name params found =>
    refine foreign fun library => (ne_of_mem_libraries name library).1 ?_
    rw [namespaceAlias_dot]
  | missing => exact foreign (by decide)

/-- There are no parentheses in a base. -/
theorem parenthesis_notMem (h : HasBase known inner base) (formed : inner.WellFormed) :
    '(' ∉ base.toList ∧ ')' ∉ base.toList := by
  have plain {word : String} (isWord : Tag.IsWord word) :
      '(' ∉ word.toList ∧ ')' ∉ word.toList := by
    have opening : Text.isWordChar '(' = false := by decide
    have closing : Text.isWordChar ')' = false := by decide
    constructor
    · exact fun found => Bool.noConfusion ((isWord.2 _ found).symm.trans opening)
    · exact fun found => Bool.noConfusion ((isWord.2 _ found).symm.trans closing)
  cases h with
  | scalar listed =>
    have none : ∀ entry ∈ scalarBases,
        '(' ∉ entry.2.toList ∧ ')' ∉ entry.2.toList := by decide
    exact none _ listed
  | found =>
    cases formed with
    | struct _ _ _ module last _ => simp [plain module, plain last]
  | missing => decide

/-- With more modules known, a base changes only if it was `any`. -/
theorem eq_or_eq_any (h : HasBase known inner base) (h' : HasBase larger inner base')
    (grows : ∀ id, known.contains id = true → larger.contains id = true) :
    base' = base ∨ base = "any" := by
  cases h with
  | scalar listed =>
    cases h' with
    | scalar listed' =>
      obtain ⟨_, rfl⟩ := mem_scalarBases_iff.mp listed
      obtain ⟨_, rfl⟩ := mem_scalarBases_iff.mp listed'
      exact .inl rfl
  | found found =>
    cases h' with
    | found => exact .inl rfl
    | missing missing => exact absurd ((grows _ found).symm.trans missing) nofun
  | missing => exact .inr rfl

end HasBase

/-! ## Collected references -/

/-- To make a type and to collect its references is to do both apart. -/
theorem convert_eq (known : ModuleMap) (tag : Tag) (references : References) :
    convert known tag references =
      (typeName known tag,
        (modulesUsed known tag).foldl References.addModule
          ((libraryTypes tag).foldl References.addType references)) := by
  fun_induction convert known tag references with
  | case1 name references type =>
    rw [typeName, modulesUsed, libraryTypes]
    · split <;> rfl
    · exact fun _ same => Tag.noConfusion same
    · exact fun _ _ same => Tag.noConfusion same
  | case2 element references type collected made ih =>
    rw [made, Prod.mk.injEq] at ih
    rw [typeName, modulesUsed, libraryTypes, ih.1, ih.2]
  | case3 name params references found => simp [typeName, modulesUsed, libraryTypes, found]
  | case4 name params references missing => simp [typeName, modulesUsed, libraryTypes, missing]
  | case5 => rfl

/-- Elements are collected one after another. -/
def collect {α : Type} (less : α → α → Bool) (set elements : List α) : List α :=
  elements.foldl (fun set element => insertSorted less element set) set

theorem mem_collect_iff {α : Type} {less : α → α → Bool} (total : IsTotal less)
    {set elements : List α} {x : α} : x ∈ collect less set elements ↔ x ∈ set ∨ x ∈ elements := by
  induction elements generalizing set with
  | nil => simp [collect]
  | cons first rest ih =>
    have step : collect less set (first :: rest) =
        collect less (insertSorted less first set) rest := rfl
    rw [step, ih, mem_insertSorted_iff total, List.mem_cons]
    tauto

theorem collect_append {α : Type} (less : α → α → Bool) (set elements others : List α) :
    collect less set (elements ++ others) = collect less (collect less set elements) others :=
  List.foldl_append

theorem collect_pairwise {α : Type} {less : α → α → Bool} (total : IsTotal less)
    (strict : IsStrict less) {set : List α} (ascending : set.Pairwise fun a b => less a b = true)
    (elements : List α) : (collect less set elements).Pairwise fun a b => less a b = true := by
  induction elements generalizing set with
  | nil => exact ascending
  | cons first rest ih => exact ih (insertSorted_pairwise total strict first ascending)

theorem foldl_addType (types : List String) (modules : Option (List ModuleId))
    (more : List String) :
    more.foldl References.addType ⟨some types, modules⟩ =
      ⟨some (collect Text.less types more), modules⟩ := by
  induction more generalizing types with
  | nil => rfl
  | cons first rest ih => exact ih (insertSorted Text.less first types)

theorem foldl_addModule (types : Option (List String)) (modules more : List ModuleId) :
    more.foldl References.addModule ⟨types, some modules⟩ =
      ⟨types, some (collect ModuleId.less modules more)⟩ := by
  induction more generalizing modules with
  | nil => rfl
  | cons first rest ih => exact ih (insertSorted ModuleId.less first modules)

/-- What is collected in two sets. -/
theorem convert_sets (known : ModuleMap) (tag : Tag) (types : List String)
    (modules : List ModuleId) :
    convert known tag ⟨some types, some modules⟩ =
      (typeName known tag, ⟨some (collect Text.less types (libraryTypes tag)),
        some (collect ModuleId.less modules (modulesUsed known tag))⟩) := by
  rw [convert_eq, foldl_addType, foldl_addModule]

/-- To collect elements in an empty set is to sort them. -/
theorem collect_nil {α : Type} {less : α → α → Bool} (total : IsTotal less)
    (strict : IsStrict less) (elements : List α) :
    collect less [] elements = sortedSet less elements := by
  have : Std.Irrefl fun a b => less a b = true :=
    ⟨fun a before => Bool.noConfusion (before.symm.trans (strict.irrefl a))⟩
  have : Std.Antisymm fun a b => less a b = true :=
    ⟨fun a b before after =>
      Bool.noConfusion ((strict.trans a b a before after).symm.trans (strict.irrefl a))⟩
  refine List.Pairwise.eq_of_mem_iff (collect_pairwise total strict .nil elements)
    (sortedSet_pairwise total strict elements) fun x => ?_
  rw [mem_collect_iff total, mem_sortedSet_iff total]
  exact or_iff_right List.not_mem_nil

/-- What is collected from the keys and values of an alias file is what the file imports. -/
theorem references_of_tags (env : Environment) (tags : List Tag) :
    tags.foldl (fun references tag => (convert env.modules tag references).2)
        ⟨some [], some []⟩ =
      ⟨some (Text.sorted (tags.flatMap libraryTypes)), some (env.modulesOf tags)⟩ := by
  have further (types : List String) (modules : List ModuleId) :
      tags.foldl (fun references tag => (convert env.modules tag references).2)
          ⟨some types, some modules⟩ =
        ⟨some (collect Text.less types (tags.flatMap libraryTypes)),
          some (collect ModuleId.less modules (tags.flatMap (modulesUsed env.modules)))⟩ := by
    induction tags generalizing types modules with
    | nil => rfl
    | cons tag rest ih =>
      rw [List.foldl_cons, convert_sets, ih, List.flatMap_cons, List.flatMap_cons, collect_append,
        collect_append]
  rw [further, collect_nil Text.less_isTotal Text.less_isStrict,
    collect_nil ModuleId.less_isTotal ModuleId.less_isStrict]
  rfl

/-! ## The law of types -/

/-- What the type of a tag is, and what is collected while it is made. -/
structure TypeLaw (known : ModuleMap) (tag : Tag) (base : String) : Prop where
  /-- The base is told by the innermost element, and `any` only for a struct that is not known. -/
  hasBase : HasBase known tag.innermost base
  any_iff : base = "any" ↔
    ∃ name params, tag.innermost = .struct name params ∧ known.contains name.moduleId = false
  /-- The text is the base with a pair of brackets for each array, whatever was collected before,
  and without parentheses. -/
  text : ∀ references, (convert known tag references).1 = base ++ brackets tag.depth
  plain : '(' ∉ (base ++ brackets tag.depth).toList ∧ ')' ∉ (base ++ brackets tag.depth).toList
  /-- The base is collected when it is a name of a library, the module of the innermost element when
  it is known, and nothing else. -/
  collected : ∀ types modules, ∃ types' modules',
    (convert known tag ⟨some types, some modules⟩).2 = ⟨some types', some modules'⟩ ∧
    (∀ type, type ∈ types' ↔ type ∈ types ∨ type = base ∧
      base ∈ ["U8", "U16", "U32", "U64", "U128", "U256", "HexString"]) ∧
    ∀ id, id ∈ modules' ↔ id ∈ modules ∨ ∃ name params,
      tag.innermost = .struct name params ∧ name.moduleId = id ∧ known.contains id = true
  /-- More known modules change nothing but a base that is `any`. -/
  larger : ∀ larger : ModuleMap, (∀ id, known.contains id = true → larger.contains id = true) →
    ∃ base', HasBase larger tag.innermost base' ∧
      (∀ references, (convert larger tag references).1 = base' ++ brackets tag.depth) ∧
      (base' = base ∨ base = "any")

theorem parenthesis_notMem_typeName (formed : tag.WellFormed) :
    '(' ∉ (typeName known tag).toList ∧ ')' ∉ (typeName known tag).toList := by
  have base := (hasBase_innermost known formed).parenthesis_notMem
    (innermost_wellFormed formed)
  have bracket {c : Char} (other : c ≠ '[' ∧ c ≠ ']') :
      c ∉ (brackets tag.depth).toList := by
    intro found
    rcases bracket_of_mem_brackets found with opening | closing
    · exact other.1 opening
    · exact other.2 closing
  rw [typeName_eq_innermost formed, String.toList_append, List.mem_append, List.mem_append, not_or,
    not_or]
  exact ⟨⟨base.1, bracket (by decide)⟩, ⟨base.2, bracket (by decide)⟩⟩

/-- Every tag that is read has a type of this kind. -/
theorem types_of_read_tags {text : String} {tag : Tag} (h : Tag.read text = .ok tag)
    (known : ModuleMap) : ∃ base, TypeLaw known tag base := by
  have formed := Tag.wellFormed_of_read h
  have base := hasBase_innermost known formed
  have textOf (modules : ModuleMap) (references : References) :
      (convert modules tag references).1 =
        typeName modules tag.innermost ++ brackets tag.depth := by
    rw [convert_eq]
    exact typeName_eq_innermost formed
  refine ⟨typeName known tag.innermost, base, base.eq_any_iff, textOf known, ?_, ?_, ?_⟩
  · rw [← typeName_eq_innermost formed]
    exact parenthesis_notMem_typeName formed
  · intro types modules
    refine ⟨_, _, congrArg Prod.snd (convert_sets known tag types modules), fun type => ?_,
      fun id => ?_⟩
    · rw [mem_collect_iff Text.less_isTotal, ← libraryTypes_innermost, base.mem_libraryTypes_iff]
      rfl
    · rw [mem_collect_iff ModuleId.less_isTotal, mem_modulesUsed_iff]
  · intro larger grows
    exact ⟨_, hasBase_innermost larger formed, textOf larger,
      base.eq_or_eq_any (hasBase_innermost larger formed) grows⟩

theorem types_of_read_tags_vector :
    Tag.read "vector<vector<0x1::Coin::Coin<u64>>>" =
      .ok (.vector (.vector (.struct ⟨"0x1", "Coin", "Coin"⟩ [.scalar "u64"]))) ∧
    ∃ base, TypeLaw (.ofList [(⟨"0x1", "Coin"⟩, "Std")])
      (.vector (.vector (.struct ⟨"0x1", "Coin", "Coin"⟩ [.scalar "u64"]))) base := by
  have formed : (Tag.vector (.vector
      (.struct ⟨"0x1", "Coin", "Coin"⟩ [.scalar "u64"]))).WellFormed := by
    refine .vector (.vector ?_)
    refine .struct (by decide) (by decide) (by decide) (by decide) (by decide) ?_
    intro param member
    cases List.mem_singleton.mp member
    exact .scalar (by decide)
  have read := Tag.read_text_of_wellFormed formed
  exact ⟨read, types_of_read_tags read _⟩

end MoveBindings.TypeScript
