import MoveBindings.Proofs.Emission.AliasNames
import MoveBindings.Proofs.Emission.Findings
import MoveBindings.Proofs.TypeScript.AnyTypes

/-!
# Types that are noted as untyped

An alias file notes a key or a value whose type has the word `any` in it. These
are the tags whose types fall back to `any`, but also those of structs that are
called `any` or lie in a module called so, though their types are found.
-/

namespace MoveBindings

open TypeScript

/-- Whether a diagnostic is about a type that becomes `any`. -/
def Diagnostic.isAboutType (d : Diagnostic) : Bool := d.finding.code == "W002"

namespace AliasFile

/-- The notes about those keys and values, in order, whose tags are picked. -/
def untypedNotes (picked : Tag → Bool) (path : String) (fields : List ContainerField) :
    List Diagnostic :=
  fields.flatMap fun field => ([field.key, field.value].filter picked).map fun tag =>
    ⟨.untyped field.fieldName tag.text, path⟩

theorem untypedNotes_append (picked : Tag → Bool) (path : String)
    (fields others : List ContainerField) :
    untypedNotes picked path (fields ++ others) =
      untypedNotes picked path fields ++ untypedNotes picked path others :=
  List.flatMap_append

theorem untypedNotes_congr {picked picked' : Tag → Bool} {path : String}
    {fields : List ContainerField} (alike : ∀ tag ∈ tags fields, picked tag = picked' tag) :
    untypedNotes picked path fields = untypedNotes picked' path fields := by
  refine List.flatMap_congr fun field member => ?_
  have inField : [field.key, field.value].filter picked =
      [field.key, field.value].filter picked' :=
    List.filter_congr fun tag inField => alike tag (List.mem_flatMap.mpr ⟨field, member, inField⟩)
  rw [inField]

/-- There are as many notes as tags that are picked. -/
theorem length_untypedNotes (picked : Tag → Bool) (path : String) (fields : List ContainerField) :
    (untypedNotes picked path fields).length = (tags fields).countP picked := by
  rw [untypedNotes, tags, List.length_flatMap, List.countP_flatMap]
  simp only [List.length_map, List.countP_eq_length_filter, Function.comp_def]

/-- To pick more tags makes no difference exactly when there are no more to pick. -/
theorem untypedNotes_eq_iff {more picked : Tag → Bool} {path : String}
    {fields : List ContainerField} (covers : ∀ tag, picked tag = true → more tag = true) :
    untypedNotes more path fields = untypedNotes picked path fields ↔
      ∀ tag ∈ tags fields, more tag = true → picked tag = true := by
  constructor
  · intro same tag member moreTag
    have sizes := congrArg List.length same
    rw [length_untypedNotes, length_untypedNotes] at sizes
    simp only [List.countP_eq_length_filter] at sizes
    have sublist := List.monotone_filter_right (tags fields) covers
    have picked := List.mem_filter.mpr ⟨member, moreTag⟩
    rw [← sublist.eq_of_length sizes.symm] at picked
    exact (List.mem_filter.mp picked).2
  · intro all
    exact untypedNotes_congr fun tag member => Bool.eq_iff_iff.mpr ⟨all tag member, covers tag⟩

end AliasFile

namespace Environment

open AliasFile Emission

variable {env : Environment} {path : String} {field : ContainerField}
  {fields : List ContainerField}

/-- On the way to an identifier no types are noted. -/
theorem filter_found_identifier (name location : String) :
    (env.identifier name location).found.filter Diagnostic.isAboutType = [] := by
  unfold identifier
  dsimp only
  split <;> rfl

theorem filter_found_aliasIdentifier (field : ContainerField) (location : String) :
    (env.aliasIdentifier field location).found.filter Diagnostic.isAboutType = [] := by
  unfold aliasIdentifier
  rw [found_bind_of_ok (outcome_identifier ..), List.filter_append, filter_found_identifier,
    List.nil_append]
  split
  · rfl
  · rw [found_bind_of_ok (outcome_identifier ..), List.filter_append, filter_found_identifier]
    rfl

/-- A type in which `any` is mentioned is noted, and no other is. -/
theorem filter_found_aliasType {tag : Tag} {location type : String}
    (h : (env.aliasType field tag location).outcome = .ok type) :
    (env.aliasType field tag location).found.filter Diagnostic.isAboutType =
      if mentionsAny (typeName env.modules tag) then
        [⟨.untyped field.fieldName tag.text, location⟩]
      else [] := by
  unfold aliasType at h ⊢
  dsimp only at h ⊢
  split at h
  · next mentions =>
    rw [if_pos mentions, if_pos mentions]
    split at h
    · cases h
    · next text written =>
      unfold Tag.text? at written
      split at written
      · cases written
        rfl
      · cases written
  · next silent =>
    rw [if_neg silent, if_neg silent]
    rfl

/-- Whether the type of a tag has the word `any` in it. -/
def mentions (env : Environment) (tag : Tag) : Bool := mentionsAny (typeName env.modules tag)

theorem filter_found_fieldAlias {taken : List String} {declared : TypeAlias}
    (h : (env.fieldAlias path taken field).outcome = .ok declared) :
    (env.fieldAlias path taken field).found.filter Diagnostic.isAboutType =
      untypedNotes env.mentions path [field] := by
  have free := (of_fieldAlias h).2
  obtain ⟨name, named, h⟩ := outcome_bind_eq_ok_iff.mp h
  cases (env.outcome_aliasIdentifier field path).symm.trans named
  rw [if_neg free] at h
  obtain ⟨key, keyMade, h⟩ := outcome_bind_eq_ok_iff.mp h
  obtain ⟨value, valueMade, h⟩ := outcome_bind_eq_ok_iff.mp h
  rw [fieldAlias, found_bind_of_ok named, if_neg free, found_bind_of_ok keyMade,
    found_bind_of_ok valueMade, List.filter_append, List.filter_append, List.filter_append,
    filter_found_aliasIdentifier, filter_found_aliasType keyMade, filter_found_aliasType valueMade]
  by_cases keyMentions : mentionsAny (typeName env.modules field.key) = true <;>
    by_cases valueMentions : mentionsAny (typeName env.modules field.value) = true <;>
    simp [untypedNotes, mentions, keyMentions, valueMentions, pure_def]

theorem filter_found_fieldAliases {taken : List String} {aliases : List TypeAlias}
    (h : (env.fieldAliases path taken fields).outcome = .ok aliases) :
    (env.fieldAliases path taken fields).found.filter Diagnostic.isAboutType =
      untypedNotes env.mentions path fields := by
  induction fields generalizing taken aliases with
  | nil => rfl
  | cons field rest ih =>
    obtain ⟨first, firstMade, h⟩ := outcome_bind_eq_ok_iff.mp h
    obtain ⟨others, othersMade, h⟩ := outcome_bind_eq_ok_iff.mp h
    rw [fieldAliases, found_bind_of_ok firstMade, found_bind_of_ok othersMade, List.filter_append,
      List.filter_append, filter_found_fieldAlias firstMade, ih othersMade]
    exact (List.append_assoc ..).symm.trans
      ((List.append_nil _).trans (untypedNotes_append env.mentions path [field] rest).symm)

theorem filter_found_aliasFile {package : String} {module : ModuleId} {script : Script}
    (h : (env.aliasFile package module fields).outcome = .ok (path, script)) :
    (env.aliasFile package module fields).found.filter Diagnostic.isAboutType =
      untypedNotes env.mentions path fields := by
  obtain ⟨source, made, h⟩ := outcome_bind_eq_ok_iff.mp h
  cases h
  obtain ⟨aliases, aliasesMade, rest⟩ := outcome_bind_eq_ok_iff.mp made
  obtain ⟨classes, classesFound, rest⟩ := outcome_bind_eq_ok_iff.mp rest
  obtain ⟨modules, modulesFound, rest⟩ := outcome_bind_eq_ok_iff.mp rest
  rw [aliasFile, found_bind_of_ok made, aliasSource, found_bind_of_ok aliasesMade,
    found_bind_of_ok classesFound, found_bind_of_ok modulesFound, List.filter_append,
    List.filter_append, filter_found_fieldAliases aliasesMade]
  exact (List.append_nil _).trans (List.append_nil _)

/-- An alias file is made for parsed fields. Its notes about types are those of the keys and values,
in order, whose innermost element is a struct of an unknown module, which are the ones whose types
are `any` or an array of it, and of those whose types name a struct that is called `any` or lies in
a module called so. So they are the notes about types that fall back to `any` exactly when no type
names such a struct. -/
theorem untyped_notes (parsed : ∀ field ∈ fields, field.IsParsed) {package : String}
    {module : ModuleId} {script : Script}
    (made : (env.aliasFile package module fields).outcome = .ok (path, script)) :
    let notes := (env.aliasFile package module fields).found.filter Diagnostic.isAboutType
    notes = untypedNotes (fun tag => isUntyped env.modules tag || namesAny env.modules tag) path
        fields ∧
      (∀ tag ∈ tags fields, isUntyped env.modules tag = true ↔
        typeName env.modules tag = anyType ++ brackets tag.depth) ∧
      (notes = untypedNotes (isUntyped env.modules) path fields ↔
        ∀ tag ∈ tags fields, ∀ name, namedStruct? env.modules tag = some name →
          name.module ≠ "any" ∧ name.name ≠ "any") := by
  have formed : ∀ tag ∈ tags fields, tag.WellFormed := by
    intro tag member
    obtain ⟨field, inFields, inField⟩ := List.mem_flatMap.mp member
    exact (parsed field inFields).wellFormed tag inField
  have notes : (env.aliasFile package module fields).found.filter Diagnostic.isAboutType =
      untypedNotes (fun tag => isUntyped env.modules tag || namesAny env.modules tag) path
        fields := by
    rw [filter_found_aliasFile made]
    exact untypedNotes_congr fun tag member => mentionsAny_typeName (formed tag member)
  refine ⟨notes, fun tag member => isUntyped_iff (formed tag member), ?_⟩
  rw [notes, untypedNotes_eq_iff fun tag untyped => by rw [untyped, Bool.true_or]]
  refine forall₂_congr fun tag member => ?_
  rw [← namesAny_eq_false_iff]
  cases untyped : isUntyped env.modules tag with
  | true => simp [namesAny_of_isUntyped untyped]
  | false => simp

/-- An environment that knows a module called `any`. -/
def boxEnvironment : Environment where
  known := some (.ofList [(⟨"0x1", "any"⟩, "Std")])

/-- A struct of the known module, and vectors of a struct of an unknown one. -/
def boxField : ContainerField where
  container := .table
  fieldName := "boxes"
  key := .struct ⟨"0x1", "any", "Any"⟩ []
  value := .vector (.struct ⟨"0x2", "Gem", "Gem"⟩ [])
  qualifiedName := "0x1::Table::Table"
  owner := "Shelf"

theorem boxField_isParsed : boxField.IsParsed := by
  have key : boxField.key.WellFormed :=
    .struct (by decide) (by decide) (by decide) (by decide) (by decide) (by simp)
  have gem : (Tag.struct ⟨"0x2", "Gem", "Gem"⟩ []).WellFormed :=
    .struct (by decide) (by decide) (by decide) (by decide) (by decide) (by simp)
  exact ContainerField.isParsed_of_table rfl key (.vector gem)

/-- The key is noted as well as the value, though its type is found. -/
theorem untyped_notes_box :
    (∀ field ∈ [boxField], field.IsParsed) ∧
    ∃ script, (boxEnvironment.aliasFile "Shop" ⟨"0x3", "Store"⟩ [boxField]).outcome =
        .ok ("Shop/Store.tables.ts", script) ∧
      (boxEnvironment.aliasFile "Shop" ⟨"0x3", "Store"⟩ [boxField]).found.filter
          Diagnostic.isAboutType =
        [⟨.untyped "boxes" "0x1::any::Any", "Shop/Store.tables.ts"⟩,
          ⟨.untyped "boxes" "vector<0x2::Gem::Gem>", "Shop/Store.tables.ts"⟩] ∧
      typeName boxEnvironment.modules boxField.key = "any$_.Any" ∧
      typeName boxEnvironment.modules boxField.value = "any[]" := by
  have parsed : ∀ field ∈ [boxField], field.IsParsed := by simpa using boxField_isParsed
  obtain ⟨⟨path, script⟩, made⟩ := exists_of_isOk (by decide : (boxEnvironment.aliasFile "Shop"
    ⟨"0x3", "Store"⟩ [boxField]).outcome.isOk = true)
  cases (of_aliasFile made).1
  obtain ⟨notes, _, _⟩ := untyped_notes parsed made
  exact ⟨parsed, script, made, notes.trans (by decide), by decide, by decide⟩

end Environment

end MoveBindings
