import MoveBindings.Emission.Links
import MoveBindings.Proofs.Path.Resolve

/-!
# Where import sources lead

A source that is written for a target starts at the directory of the importing
file or above it, and no source that leads to the target goes up fewer levels: a
source that goes up some levels keeps the rest of the directory, and what it
keeps is the start of every path that it leads to.

It leads to the target unless the target is the directory of the importing file
itself. Such a source enters an entry of the directory that has the directory's
own name.
-/

namespace MoveBindings

namespace Path

/-- A path that stays below the directory where it starts: it is relative, and goes nowhere up. -/
structure IsInner (p : Path) : Prop where
  relative : p.root = ""
  noUps : ".." ∉ p.components

instance (p : Path) : Decidable p.IsInner :=
  decidable_of_iff (p.root = "" ∧ ".." ∉ p.components)
    ⟨fun h => ⟨h.1, h.2⟩, fun h => ⟨h.relative, h.noUps⟩⟩

/-- How many levels a source goes up. -/
def levelsUp (source : String) : Nat := (ofString source).components.count ".."

/-! ## No source goes up less -/

/-- Double dots leave at most as many directories as there are double dots. -/
theorem drop_count_suffix_foldl_enter (names directory : List String) :
    directory.drop (names.count "..") <:+ names.foldl enter directory := by
  induction names generalizing directory with
  | nil => exact List.suffix_rfl
  | cons name rest ih =>
    have entered (innermost : String) {fewer count : Nat} (h : fewer ≤ count + 1) :
        directory.drop count <:+ (innermost :: directory).drop fewer :=
      List.drop_suffix_drop_left (innermost :: directory) h
    refine List.IsSuffix.trans ?_ (ih (enter directory name))
    by_cases up : name = ".."
    · rw [up, List.count_cons_self]
      cases directory with
      | nil => simp
      | cons innermost outer =>
        by_cases above : innermost = ".."
        · rw [enter, if_pos rfl, if_pos above]
          exact entered ".." (Nat.le_succ_of_le (Nat.le_succ _))
        · rewrite [enter, if_pos rfl, if_neg above, List.drop_succ_cons]
          exact List.suffix_rfl
    · rw [List.count_cons_of_ne up, enter.eq_def, if_neg up]
      exact entered name (Nat.le_succ _)

/-- What two lists start with is in common. -/
theorem length_le_commonLength {start a b : List String} (inLeft : start <+: a)
    (inRight : start <+: b) : start.length ≤ commonLength a b := by
  obtain ⟨as, rfl⟩ := inLeft
  obtain ⟨bs, rfl⟩ := inRight
  induction start with
  | nil => exact Nat.zero_le _
  | cons name rest ih => simpa [commonLength] using ih

/-- A source that leads from a file to a target goes up at least to the directory that both are
in. -/
theorem ups_le_levelsUp {file target : Path} {source : String} (fileInner : file.IsInner)
    (targetInner : target.IsInner) (leads : resolve file source = target) :
    ups file target ≤ levelsUp source := by
  have noUps : ".." ∉ file.parent.components :=
    fun found => fileInner.noUps (List.dropLast_subset _ found)
  have relative : (ofString source).root = "" := by
    refine Decidable.byContradiction fun absolute => absolute ?_
    rw [← targetInner.relative, ← leads, resolve, collapse, join, if_neg absolute]
  have components : ((ofString source).components.foldl enter
      file.parent.components.reverse).reverse = target.components := by
    rw [← leads, resolve, collapse, join, if_pos relative]
    simp only [List.foldl_append, foldl_enter_names noUps, List.append_nil]
  have kept := drop_count_suffix_foldl_enter (ofString source).components
    file.parent.components.reverse
  rw [← List.reverse_prefix, components, List.drop_reverse, List.reverse_reverse] at kept
  have shared := length_le_commonLength (List.take_prefix _ _) kept
  rw [List.length_take] at shared
  rw [ups, levelsUp]
  omega

/-! ## The source of a target -/

variable {file target : Path}

theorem commonLength_self (names : List String) : commonLength names names = names.length := by
  induction names with
  | nil => rfl
  | cons name rest ih => rw [commonLength, if_pos rfl, ih, List.length_cons]

theorem mem_of_mem_last {name : String}
    (found : name ∈ target.components.getLast?.toList) : name ∈ target.components :=
  List.mem_of_getLast? (Option.mem_toList.mp found)

/-- The source of the directory of the file itself enters an entry of that name, if it has one. -/
theorem importSource_of_here (fileInner : file.IsInner) (targetInner : target.IsInner)
    (here : target.components = file.parent.components) :
    importSource file target = "./" ++ "/".intercalate target.components.getLast?.toList := by
  have parts : file.parent.parts = target.parts := by
    simp [Path.parts, parent, fileInner.relative, targetInner.relative, here]
  have named : "/".intercalate target.components.getLast?.toList = target.name := by
    cases last : target.components.getLast? <;> simp [name, last]
  rw [named]
  simp [importSource, parts, commonLength_self]

/-- The source of the directory of the file itself leads to that entry. -/
theorem resolve_importSource_of_here (fileInner : file.IsInner) (targetInner : target.IsInner)
    (proper : ∀ name ∈ target.components, IsComponent name)
    (here : target.components = file.parent.components) :
    resolve file (importSource file target) =
      { target with components := target.components ++ target.components.getLast?.toList } := by
  rw [importSource_of_here fileInner targetInner here,
    resolve_here fileInner.noUps (fun name found => proper name (mem_of_mem_last found))
      (fun found => targetInner.noUps (mem_of_mem_last found)),
    here, fileInner.relative, targetInner.relative]

/-- A source leads to its target exactly when the target is elsewhere, or has no name. -/
theorem resolve_importSource_iff (fileInner : file.IsInner) (targetInner : target.IsInner)
    (proper : ∀ name ∈ target.components, IsComponent name) :
    resolve file (importSource file target) = target ↔
      (target.components = file.parent.components → target.components = []) := by
  by_cases here : target.components = file.parent.components
  · rw [resolve_importSource_of_here fileInner targetInner proper here]
    obtain ⟨root, names⟩ := target
    obtain rfl : names = file.parent.components := here
    simp
  · have leads := resolve_importSource fileInner.relative targetInner.relative proper
      fileInner.noUps targetInner.noUps here
    exact iff_of_true leads fun same => absurd same here

/-- Every source starts at the directory of the file, or goes up from there. -/
theorem importSource_starts (fileInner : file.IsInner) (targetInner : target.IsInner) :
    (∃ rest, importSource file target = "./" ++ rest) ∨
      ∃ rest, importSource file target = "../" ++ rest := by
  by_cases here : target.components = file.parent.components
  · exact .inl ⟨_, importSource_of_here fileInner targetInner here⟩
  · rw [importSource_eq fileInner.relative targetInner.relative here]
    cases ups file target with
    | zero => exact .inl ⟨_, if_pos rfl⟩
    | succ count =>
      rw [if_neg (Nat.succ_ne_zero count), List.replicate_succ, String.join_cons,
        String.append_assoc]
      exact .inr ⟨_, rfl⟩

/-- A source goes up to the deepest directory that the file and the target are both in. -/
theorem levelsUp_importSource (fileInner : file.IsInner) (targetInner : target.IsInner)
    (proper : ∀ name ∈ target.components, IsComponent name) :
    levelsUp (importSource file target) = ups file target := by
  by_cases here : target.components = file.parent.components
  · have names : ∀ name ∈ target.components.getLast?.toList, IsComponent name :=
      fun name found => proper name (mem_of_mem_last found)
    rw [levelsUp, importSource_of_here fileInner targetInner here, components_ofString_here,
      components_ofString_intercalate names, ups, here, commonLength_self, Nat.sub_self]
    exact List.count_eq_zero_of_not_mem fun found => targetInner.noUps
      (mem_of_mem_last (here ▸ found))
  · have noUps : ".." ∉ downs file target :=
      fun found => targetInner.noUps (List.mem_of_mem_drop found)
    rw [levelsUp, components_importSource fileInner.relative targetInner.relative proper here,
      List.count_append, List.count_replicate_self, List.count_eq_zero_of_not_mem noUps,
      Nat.add_zero]

end Path

/-- Where sources lead. Let a file and a target lie below the output root. The source starts at the
directory of the file or goes up from it. It leads to the target exactly when the target is not the
directory of the file, or is the root itself; to that directory it leads with the directory's name
once more. And no source that leads to the target goes up less. -/
theorem import_source_leads_iff {file target : String} (fileInner : (Path.ofString file).IsInner)
    (targetInner : (Path.ofString target).IsInner) :
    ((∃ rest, importSource file target = "./" ++ rest) ∨
      ∃ rest, importSource file target = "../" ++ rest) ∧
    (Path.resolve (Path.ofString file) (importSource file target) = Path.ofString target ↔
      ((Path.ofString target).components = (Path.ofString file).parent.components →
        (Path.ofString target).components = [])) ∧
    (∀ above name, (Path.ofString target).components = above ++ [name] →
      (Path.ofString file).parent.components = above ++ [name] →
        Path.resolve (Path.ofString file) (importSource file target) =
          ⟨"", above ++ [name, name]⟩) ∧
    ∀ source, Path.resolve (Path.ofString file) source = Path.ofString target →
      Path.levelsUp (importSource file target) ≤ Path.levelsUp source := by
  have proper : ∀ name ∈ (Path.ofString target).components, Path.IsComponent name :=
    fun _ => Path.isComponent_of_mem_ofString
  refine ⟨Path.importSource_starts fileInner targetInner,
    Path.resolve_importSource_iff fileInner targetInner proper, ?_, ?_⟩
  · intro above name isTarget isHere
    rw [importSource, Path.resolve_importSource_of_here fileInner targetInner proper
      (isTarget.trans isHere.symm), isTarget, targetInner.relative]
    simp
  · intro source leads
    rw [importSource, Path.levelsUp_importSource fileInner targetInner proper]
    exact Path.ups_le_levelsUp fileInner targetInner leads

/-- From a directory two levels down, the directory above is reached by one level up. The directory
itself is not reached: its source leads to an entry of the same name. -/
theorem import_source_leads_iff_shelf :
    Path.resolve (Path.ofString "Shop/Shelf/Market.tables.ts")
      (importSource "Shop/Shelf/Market.tables.ts" "Shop") = Path.ofString "Shop" ∧
    (∀ source, Path.resolve (Path.ofString "Shop/Shelf/Market.tables.ts") source =
      Path.ofString "Shop" → 1 ≤ Path.levelsUp source) ∧
    Path.resolve (Path.ofString "Shop/Shelf/Market.tables.ts")
      (importSource "Shop/Shelf/Market.tables.ts" "Shop/Shelf") =
        ⟨"", ["Shop", "Shelf", "Shelf"]⟩ := by
  have fileInner : (Path.ofString "Shop/Shelf/Market.tables.ts").IsInner := by decide
  obtain ⟨-, leads, -, least⟩ := import_source_leads_iff fileInner
    (by decide : (Path.ofString "Shop").IsInner)
  obtain ⟨-, -, again, -⟩ := import_source_leads_iff fileInner
    (by decide : (Path.ofString "Shop/Shelf").IsInner)
  have levels : Path.levelsUp (importSource "Shop/Shelf/Market.tables.ts" "Shop") = 1 := by decide
  refine ⟨leads.mpr fun here => absurd here (by decide), fun source reached => ?_,
    again ["Shop"] "Shelf" (by decide) (by decide)⟩
  exact levels ▸ least source reached

end MoveBindings
