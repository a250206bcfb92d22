import MoveBindings.Path.Relative
import MoveBindings.Proofs.Path.Components

/-!
# Resolving import sources

A source is resolved by going to it from the directory of the importing file. A
double dot then leaves the directory that was entered last. Paths are compared
by their components, so what a source resolves to does not depend on files.

The source that is written for a target resolves to the target: it goes up to
the deepest common directory and down from there. The one exception is a target
that is the directory of the importing file itself.
-/

namespace MoveBindings.Path

/-- Enters a component from a directory, whose components are given innermost first. A double dot
leaves the directory, unless there is none to leave. -/
def enter (directory : List String) (component : String) : List String :=
  if component = ".." then
    match directory with
    | [] => [".."]
    | innermost :: outer => if innermost = ".." then ".." :: directory else outer
  else component :: directory

/-- A path without the double dots that leave one of its own directories. -/
def collapse (p : Path) : Path := { p with components := (p.components.foldl enter []).reverse }

/-- What a source denotes in a file. -/
def resolve (file : Path) (source : String) : Path :=
  (file.parent.join (ofString source)).collapse

/-- Without double dots every component is entered. -/
theorem foldl_enter_names {names : List String} (noUps : ".." ∉ names) (directory : List String) :
    names.foldl enter directory = names.reverse ++ directory := by
  induction names generalizing directory with
  | nil => rfl
  | cons name rest ih =>
    obtain ⟨other, noUpsLater⟩ := List.ne_and_not_mem_of_not_mem_cons noUps
    simp [enter, Ne.symm other, ih noUpsLater]

/-- Every double dot leaves one directory, as long as there are enough of them. -/
theorem foldl_enter_ups {directory : List String} (noUps : ".." ∉ directory) {count : Nat}
    (enough : count ≤ directory.length) :
    (List.replicate count "..").foldl enter directory = directory.drop count := by
  induction count generalizing directory with
  | zero => rfl
  | succ count ih =>
    cases directory with
    | nil => simp at enough
    | cons innermost outer =>
      obtain ⟨other, noUpsLater⟩ := List.ne_and_not_mem_of_not_mem_cons noUps
      rw [List.replicate_succ, List.foldl_cons, List.drop_succ_cons]
      have left : enter (innermost :: outer) ".." = outer := by
        simp [enter, Ne.symm other]
      rw [left]
      exact ih noUpsLater (Nat.le_of_succ_le_succ enough)

/-- Going up some levels and down other names replaces the end of a path. -/
theorem foldl_enter_ups_names {directory names : List String} (noUps : ".." ∉ directory)
    (noUpsInNames : ".." ∉ names) {shared : Nat} :
    ((directory ++ List.replicate (directory.length - shared) ".." ++ names).foldl enter
      []).reverse = directory.take shared ++ names := by
  have noUpsReversed : ".." ∉ directory.reverse := by simpa using noUps
  have enough : directory.length - shared ≤ directory.reverse.length := by simp
  rw [List.foldl_append, List.foldl_append, foldl_enter_names noUps, List.append_nil,
    foldl_enter_ups noUpsReversed enough, foldl_enter_names noUpsInNames, List.reverse_append,
    List.reverse_reverse, List.drop_reverse, List.reverse_reverse]
  congr 1
  cases Nat.le_total shared directory.length with
  | inl short => rw [Nat.sub_sub_self short]
  | inr long =>
    rw [Nat.sub_eq_zero_of_le long, Nat.sub_zero, List.take_length, List.take_of_length_le long]

/-- What two lists have in common is the start of both. -/
theorem take_commonLength (a b : List String) :
    a.take (commonLength a b) = b.take (commonLength a b) := by
  fun_induction commonLength a b <;> simp_all

/-- The components of a path upwards. -/
theorem components_ofString_ups (count : Nat) (rest : String) :
    (ofString (String.join (List.replicate count "../") ++ rest)).components =
      List.replicate count ".." ++ (ofString rest).components := by
  have up : IsComponent ".." := ⟨by decide, by decide, by decide⟩
  induction count with
  | zero => simp
  | succ count ih =>
    have step : String.join (List.replicate (count + 1) "../") ++ rest =
        ".." ++ "/" ++ (String.join (List.replicate count "../") ++ rest) := by
      rw [List.replicate_succ, String.join_cons, String.append_assoc]
      rfl
    rw [step, components_ofString_append, components_ofString_name up, ih]
    rfl

/-- The components of a path from the directory itself. -/
theorem components_ofString_here (rest : String) :
    (ofString ("./" ++ rest)).components = (ofString rest).components :=
  components_ofString_append "." rest

/-- The names that a source goes down, for a target other than the directory of the file. -/
def downs (file target : Path) : List String :=
  target.components.drop (commonLength file.parent.components target.components)

/-- How many levels a source goes up. -/
def ups (file target : Path) : Nat :=
  file.parent.components.length - commonLength file.parent.components target.components

/-- A target that lies nowhere up or down is the directory of the file. -/
theorem eq_parent_of_here {file target : Path} (noUps : ups file target = 0)
    (noDowns : downs file target = []) : target.components = file.parent.components := by
  have shared := take_commonLength file.parent.components target.components
  have all : file.parent.components.length ≤
      commonLength file.parent.components target.components := Nat.le_of_sub_eq_zero noUps
  rw [List.take_of_length_le all, List.take_of_length_le (List.drop_eq_nil_iff.mp noDowns)]
    at shared
  exact shared.symm

/-- A source goes up, or starts at the directory itself, and then goes down. -/
theorem importSource_eq {file target : Path} (relativeFile : file.root = "")
    (relativeTarget : target.root = "")
    (elsewhere : target.components ≠ file.parent.components) :
    importSource file target =
      if ups file target = 0 then "./" ++ "/".intercalate (downs file target)
      else String.join (List.replicate (ups file target) "../") ++
        "/".intercalate (downs file target) := by
  have parts : file.parent.parts = file.parent.components := by
    simp [Path.parts, parent, relativeFile]
  have targetParts : target.parts = target.components := by simp [Path.parts, relativeTarget]
  simp only [importSource, parts, targetParts, ← ups.eq_1, ← downs.eq_1]
  by_cases noUps : ups file target = 0
  · have noTarget : (downs file target).isEmpty = false :=
      List.isEmpty_eq_false_iff.mpr (mt (eq_parent_of_here noUps) elsewhere)
    simp [noUps, noTarget]
  · simp [noUps]

/-- The components of a source are its double dots and the names that follow. -/
theorem components_importSource {file target : Path} (relativeFile : file.root = "")
    (relativeTarget : target.root = "") (proper : ∀ name ∈ target.components, IsComponent name)
    (elsewhere : target.components ≠ file.parent.components) :
    (ofString (importSource file target)).components =
      List.replicate (ups file target) ".." ++ downs file target := by
  have down := components_ofString_intercalate
    fun name (found : name ∈ downs file target) => proper name (List.mem_of_mem_drop found)
  rw [importSource_eq relativeFile relativeTarget elsewhere]
  split
  · next noUps => rw [components_ofString_here, down, noUps, List.replicate_zero, List.nil_append]
  · rw [components_ofString_ups, down]

/-- A source that is written for a target starts with a dot. -/
theorem head?_importSource {file target : Path} (relativeFile : file.root = "")
    (relativeTarget : target.root = "")
    (elsewhere : target.components ≠ file.parent.components) :
    (importSource file target).toList.head? = some '.' := by
  rw [importSource_eq relativeFile relativeTarget elsewhere]
  split
  · simp
  · next noUps =>
    obtain ⟨count, shape⟩ := Nat.exists_eq_succ_of_ne_zero noUps
    simp [shape, List.replicate_succ, String.join_cons]

/-- A source resolves to its target. -/
theorem resolve_importSource {file target : Path} (relativeFile : file.root = "")
    (relativeTarget : target.root = "") (proper : ∀ name ∈ target.components, IsComponent name)
    (noUpsInFile : ".." ∉ file.components) (noUpsInTarget : ".." ∉ target.components)
    (elsewhere : target.components ≠ file.parent.components) :
    resolve file (importSource file target) = target := by
  have relative : (ofString (importSource file target)).root = "" := by
    rw [root_ofString_eq_empty_iff, head?_importSource relativeFile relativeTarget elsewhere]
    simp
  have noUpsInDirectory : ".." ∉ file.parent.components :=
    fun found => noUpsInFile (List.dropLast_subset _ found)
  have noUpsInDowns : ".." ∉ downs file target :=
    fun found => noUpsInTarget (List.mem_of_mem_drop found)
  have components : ((file.parent.components ++
      (ofString (importSource file target)).components).foldl enter []).reverse =
        target.components := by
    rw [components_importSource relativeFile relativeTarget proper elsewhere, ← List.append_assoc,
      ups, foldl_enter_ups_names noUpsInDirectory noUpsInDowns, take_commonLength, downs,
      List.take_append_drop]
  obtain ⟨root, names⟩ := target
  cases relativeTarget
  simp only [resolve, join, relative, if_true, collapse, components]
  simp [parent, relativeFile]

/-- A source from the directory itself, without double dots, is entered from there. -/
theorem resolve_here {file : Path} (noUpsInFile : ".." ∉ file.components) {names : List String}
    (proper : ∀ name ∈ names, IsComponent name) (noUps : ".." ∉ names) :
    resolve file ("./" ++ "/".intercalate names) =
      { file with components := file.parent.components ++ names } := by
  have relative : (ofString ("./" ++ "/".intercalate names)).root = "" := by
    rw [root_ofString_eq_empty_iff]
    simp
  have noUpsInAll : ".." ∉ file.parent.components ++ names := by
    rw [List.mem_append, not_or]
    exact ⟨fun found => noUpsInFile (List.dropLast_subset _ found), noUps⟩
  simp only [resolve, join, relative, if_true, collapse, components_ofString_here,
    components_ofString_intercalate proper, foldl_enter_names noUpsInAll, List.append_nil,
    List.reverse_reverse]
  rfl

end MoveBindings.Path
