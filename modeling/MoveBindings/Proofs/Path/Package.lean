import Mathlib.Data.List.TakeWhile
import MoveBindings.Emission.Links
import MoveBindings.Proofs.Path.Resolve

/-!
# Paths in packages

Generated files lie in the directories of packages, and sources of imports lead
from one of them to another entry of the same or of another package.
-/

namespace MoveBindings

namespace Text

/-- The first separator is where a text is cut. -/
theorem cutAt_append_cons {separator : Char} {before : List Char} (absent : separator ∉ before)
    (after : List Char) : cutAt separator (before ++ separator :: after) = (before, after) := by
  have all : ∀ c ∈ before, (c != separator) = true := by
    intro c found
    exact bne_iff_ne.mpr fun same => absent (same ▸ found)
  simp [cutAt, List.takeWhile_append_of_pos all, List.dropWhile_append_of_pos all]

/-- A text without the separator is not cut. -/
theorem cutAt_of_notMem {separator : Char} {text : List Char} (absent : separator ∉ text) :
    cutAt separator text = (text, []) := by
  have all : ∀ c ∈ text, (c != separator) = true := by
    intro c found
    exact bne_iff_ne.mpr fun same => absent (same ▸ found)
  rw [cutAt, List.takeWhile_eq_self_iff.mpr all, List.dropWhile_eq_nil_iff.mpr all, List.drop_nil]

end Text

/-- The path of an entry of a package's directory. -/
def inPackage (package entry : String) : String := package ++ "/" ++ entry

section

variable {package entry otherPackage other : String}

theorem ofString_inPackage (directory : Path.IsComponent package)
    (proper : Path.IsComponent entry) :
    Path.ofString (inPackage package entry) = ⟨"", [package, entry]⟩ := by
  have both : ∀ name ∈ [package, entry], Path.IsComponent name := by
    simp [directory, proper]
  have joined : inPackage package entry = "/".intercalate [package, entry] := by
    rw [String.intercalate_cons_cons, String.intercalate_singleton, inPackage]
  rw [joined, Path.ofString_intercalate both]

/-- Different packages and different entries have different paths. -/
theorem inPackage_inj (directory : '/' ∉ package.toList) (otherDirectory : '/' ∉ otherPackage.toList) :
    inPackage package entry = inPackage otherPackage other ↔
      package = otherPackage ∧ entry = other := by
  have cut {name : String} (noSlash : '/' ∉ name.toList) (rest : String) :
      Text.cutAt '/' (inPackage name rest).toList = (name.toList, rest.toList) := by
    have slash : ("/" : String).toList = ['/'] := rfl
    rw [inPackage, String.append_assoc, String.toList_append, String.toList_append, slash,
      List.singleton_append, Text.cutAt_append_cons noSlash]
  constructor
  · intro same
    have pieces := (cut directory entry).symm.trans (same ▸ cut otherDirectory other)
    rw [Prod.mk.injEq, String.toList_inj, String.toList_inj] at pieces
    exact pieces
  · rintro ⟨rfl, rfl⟩
    rfl

/-- An entry of a package is no entry of the root. -/
theorem inPackage_ne_of_no_slash (proper : '/' ∉ other.toList) :
    inPackage package entry ≠ other := by
  rintro rfl
  exact proper (by simp [inPackage])

/-- A text that is put together from components as a relative path is. -/
def Path.IsPlain (text : String) : Prop :=
  ∃ names, names ≠ [] ∧ (∀ name ∈ names, Path.IsComponent name) ∧ text = "/".intercalate names

theorem isPlain_entry (proper : Path.IsComponent entry) : Path.IsPlain entry :=
  ⟨[entry], List.cons_ne_nil _ _, by simp [proper], String.intercalate_singleton.symm⟩

theorem isPlain_inPackage (directory : Path.IsComponent package)
    (proper : Path.IsComponent entry) : Path.IsPlain (inPackage package entry) := by
  refine ⟨[package, entry], List.cons_ne_nil _ _, by simp [directory, proper], ?_⟩
  rw [String.intercalate_cons_cons, String.intercalate_singleton, inPackage]

/-- What stands before an entry of a directory in the entry's path. -/
def Path.lead (directory : Path) : String :=
  directory.root ++
    if directory.components = [] then "" else "/".intercalate directory.components ++ "/"

/-- Below a directory a plain path keeps its text. -/
theorem text_join_of_isPlain (directory : Path) {text : String} (plain : Path.IsPlain text) :
    (directory.join (Path.ofString text)).text = directory.lead ++ text := by
  obtain ⟨names, nonempty, proper, rfl⟩ := plain
  rw [Path.ofString_intercalate proper]
  by_cases empty : directory.components = []
  · simp [Path.join, Path.text, Path.lead, empty, nonempty]
  · simp [Path.join, Path.text, Path.lead, empty, nonempty,
      String.intercalate_append_of_ne_nil empty nonempty, String.append_assoc]

/-- A directory below another one. -/
theorem lead_join (directory : Path) (name : String) :
    (directory.join ⟨"", [name]⟩).lead = directory.lead ++ (name ++ "/") := by
  by_cases empty : directory.components = []
  · simp [Path.join, Path.lead, empty]
  · simp [Path.join, Path.lead, empty, String.append_assoc,
      String.intercalate_append_of_ne_nil empty (List.cons_ne_nil name [])]

/-- A source for an entry of some package resolves to it. -/
theorem resolve_importSource_inPackage (directory : Path.IsEntry package)
    (file : Path.IsEntry entry) (otherDirectory : Path.IsEntry otherPackage)
    (target : Path.IsEntry other) :
    Path.resolve (Path.ofString (inPackage package entry))
        (importSource (inPackage package entry) (inPackage otherPackage other)) =
      Path.ofString (inPackage otherPackage other) := by
  rw [importSource, ofString_inPackage directory.toIsComponent file.toIsComponent,
    ofString_inPackage otherDirectory.toIsComponent target.toIsComponent]
  apply Path.resolve_importSource rfl rfl
  · simp [otherDirectory.toIsComponent, target.toIsComponent]
  · simp [directory.ne_up.symm, file.ne_up.symm]
  · simp [otherDirectory.ne_up.symm, target.ne_up.symm]
  · simp [Path.parent]

/-- The path of an entry at the root. -/
theorem ofString_entry (proper : Path.IsComponent entry) : Path.ofString entry = ⟨"", [entry]⟩ := by
  have single : ∀ name ∈ [entry], Path.IsComponent name := by simp [proper]
  have joined := Path.ofString_intercalate single
  rwa [String.intercalate_singleton] at joined

/-- A source from the directory of a file itself leads to an entry beside the file. -/
theorem resolve_here_entry {file : Path} (noUps : ".." ∉ file.components)
    (target : Path.IsEntry other) :
    Path.resolve file ("./" ++ other) =
      { file with components := file.parent.components ++ [other] } := by
  have single : ∀ name ∈ [other], Path.IsComponent name := by simp [target.toIsComponent]
  have entered := Path.resolve_here noUps single (by simp [target.ne_up.symm])
  rwa [String.intercalate_singleton] at entered

/-- A source for an entry of the same directory resolves to it. -/
theorem resolve_beside (directory : Path.IsEntry package) (file : Path.IsEntry entry)
    (target : Path.IsEntry other) :
    Path.resolve (Path.ofString (inPackage package entry)) ("./" ++ other) =
      Path.ofString (inPackage package other) := by
  have noUps : ".." ∉ (⟨"", [package, entry]⟩ : Path).components := by
    simp [directory.ne_up.symm, file.ne_up.symm]
  rw [ofString_inPackage directory.toIsComponent file.toIsComponent,
    ofString_inPackage directory.toIsComponent target.toIsComponent,
    resolve_here_entry noUps target]
  rfl

/-- A source in a file at the root resolves to an entry at the root. -/
theorem resolve_at_root (file : Path.IsEntry entry) (target : Path.IsEntry other) :
    Path.resolve (Path.ofString entry) ("./" ++ other) = Path.ofString other := by
  have noUps : ".." ∉ (⟨"", [entry]⟩ : Path).components := by
    simp [file.ne_up.symm]
  rw [ofString_entry file.toIsComponent, ofString_entry target.toIsComponent,
    resolve_here_entry noUps target]
  rfl

end

end MoveBindings
