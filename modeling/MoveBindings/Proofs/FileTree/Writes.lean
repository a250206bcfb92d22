import MoveBindings.Proofs.Dictionary
import MoveBindings.Proofs.FileTree.Places

/-!
# What writing leaves behind

To write a file makes the directories on the way to it and then changes one
place, which is no directory. No directory is lost and no file becomes one, so
the place of a file that was written stays where its path leads, and after a
number of files each place has the text of the last one that leads to it.
-/

namespace MoveBindings.FileTree

variable {before after tree : FileTree} {place : Location} {path content : String}
  {entries : List (String × String)}

/-! ## Directories -/

/-- The second tree has the files of the first, and more directories in other places. -/
structure Furnishes (before after : FileTree) : Prop where
  files : after.files = before.files
  more : after.HasDirectoriesOf before
  apart : ∀ place, before.isFile place = true → after.isDirectory place = true →
    before.isDirectory place = true

theorem Furnishes.refl (tree : FileTree) : tree.Furnishes tree :=
  ⟨rfl, fun _ is => is, fun _ _ is => is⟩

theorem Furnishes.trans {middle : FileTree} (first : before.Furnishes middle)
    (second : middle.Furnishes after) : before.Furnishes after where
  files := second.files.trans first.files
  more place is := second.more place (first.more place is)
  apart place file is := by
    have fileStill : middle.isFile place = true := by
      rwa [isFile, first.files]
    exact first.apart place file (second.apart place fileStill is)

theorem furnishes_makeDirectory {p : Path} (h : before.makeDirectory p = .ok after) :
    before.Furnishes after := by
  obtain ⟨made, _, h⟩ := exists_of_bind_eq_ok h
  split at h
  · cases h
  · next free =>
    cases h
    simp only [Bool.not_eq_true, Bool.or_eq_false_iff] at free
    refine ⟨rfl, fun place is => ?_, fun place file is => ?_⟩
    · simp only [isDirectory, Bool.or_eq_true, List.contains_cons] at is ⊢
      tauto
    · have other : (place == made) = false := by
        rw [beq_eq_false_iff_ne]
        rintro rfl
        exact absurd (free.2.symm.trans file) (by decide)
      rw [isDirectory, List.contains_cons, other, Bool.false_or] at is
      exact is

theorem furnishes_ensureDirectory {p : Path} (h : before.ensureDirectory p = .ok after) :
    before.Furnishes after := by
  unfold ensureDirectory at h
  split at h
  · next made =>
    cases h
    exact furnishes_makeDirectory made
  · split at h
    · cases h
      exact .refl _
    · cases h

theorem furnishes_ensureDirectories {p : Path} (h : before.ensureDirectories p = .ok after) :
    before.Furnishes after := by
  fun_induction ensureDirectories before p generalizing after with
  | case1 p made ensured =>
    cases h
    exact furnishes_ensureDirectory ensured
  | case2 p error failed missing ih =>
    obtain ⟨above, madeAbove, h⟩ := exists_of_bind_eq_ok h
    exact (ih madeAbove).trans (furnishes_ensureDirectory h)
  | case3 => cases h

/-! ## One file -/

/-- The second tree is the first one with a text at a place to which a path leads, and perhaps with
more directories. -/
structure Written (before : FileTree) (path content : String) (place : Location)
    (after : FileTree) : Prop where
  located : after.locate (Path.ofString path).text = .ok place
  noDirectory : after.isDirectory place = false
  files : after.files = before.files.insert place content
  more : after.HasDirectoriesOf before
  apart : ∀ place, before.isFile place = true → after.isDirectory place = true →
    before.isDirectory place = true

theorem exists_written (h : before.write path content = .ok after) :
    ∃ place, before.Written path content place after := by
  obtain ⟨furnished, made, h⟩ := exists_of_bind_eq_ok h
  obtain ⟨place, located, h⟩ := exists_of_bind_eq_ok h
  have furnishes := furnishes_ensureDirectories made
  split at h
  · cases h
  · next noDirectory =>
    cases h
    have more : HasDirectoriesOf { furnished with files := furnished.files.insert place content }
        furnished := fun _ is => is
    exact ⟨place, more.locate located, eq_false_of_ne_true noDirectory,
      congrArg (Dictionary.insert · place content) furnishes.files, furnishes.more,
      furnishes.apart⟩

/-! ## Several files -/

/-- Files are written one after the other, and none of them fails. -/
inductive Writes : FileTree → List (String × String) → FileTree → Prop where
  | nil (tree : FileTree) : Writes tree [] tree
  | cons {before next after : FileTree} {path content : String} {rest : List (String × String)}
      (first : before.write path content = .ok next) (later : Writes next rest after) :
      Writes before ((path, content) :: rest) after

/-- Nothing is lost from the first tree to the second: directories and files stay what they are. -/
structure Keeps (before after : FileTree) : Prop where
  more : after.HasDirectoriesOf before
  files : ∀ place, before.isFile place = true → after.isFile place = true
  apart : ∀ place, before.isFile place = true → after.isDirectory place = true →
    before.isDirectory place = true

theorem Keeps.refl (tree : FileTree) : tree.Keeps tree :=
  ⟨fun _ is => is, fun _ is => is, fun _ _ is => is⟩

theorem Keeps.trans {middle : FileTree} (first : before.Keeps middle)
    (second : middle.Keeps after) : before.Keeps after where
  more place is := second.more place (first.more place is)
  files place file := second.files place (first.files place file)
  apart place file is := first.apart place file (second.apart place (first.files place file) is)

theorem find?_files_of_written (written : before.Written path content place after)
    (other : Location) :
    after.files.find? other = if place = other then some content else before.files.find? other := by
  rw [written.files, Dictionary.find?_insert]

theorem Written.keeps (written : before.Written path content place after) :
    before.Keeps after where
  more := written.more
  files other file := by
    rw [isFile, Dictionary.contains, find?_files_of_written written]
    split
    · rfl
    · exact file
  apart := written.apart

theorem Writes.keeps (h : Writes before entries after) : before.Keeps after := by
  induction h with
  | nil tree => exact .refl tree
  | cons first _ ih =>
    obtain ⟨_, written⟩ := exists_written first
    exact written.keeps.trans ih

/-- Whether a path leads to a place. -/
def leadsTo (tree : FileTree) (place : Location) (path : String) : Bool :=
  match tree.locate path with
  | .ok found => found == place
  | .error _ => false

theorem leadsTo_iff : tree.leadsTo place path = true ↔ tree.locate path = .ok place := by
  unfold leadsTo
  split
  · next found located => rw [located, beq_iff_eq, Except.ok.injEq]
  · next error failed => simp [failed]

/-- The text of the last entry whose path leads to a place. -/
def lastTo (tree : FileTree) (place : Location) (entries : List (String × String)) :
    Option String :=
  ((entries.filter fun entry => tree.leadsTo place entry.1).getLast?).map Prod.snd

theorem lastTo_cons (tree : FileTree) (place : Location) (entry : String × String)
    (rest : List (String × String)) :
    tree.lastTo place (entry :: rest) =
      (tree.lastTo place rest).or (if tree.leadsTo place entry.1 then some entry.2 else none) := by
  rw [lastTo, lastTo, List.filter_cons]
  by_cases leads : tree.leadsTo place entry.1 = true
  · rw [if_pos leads, if_pos leads, List.getLast?_cons]
    cases (rest.filter fun entry => tree.leadsTo place entry.1).getLast? <;> rfl
  · rw [if_neg leads, if_neg leads, Option.or_none]

/-- The second tree is the first one with the entries written to it: each path leads to a file, and
each place has the text of the last entry whose path leads to it, or else what it had. -/
structure HoldsLast (before : FileTree) (entries : List (String × String)) (after : FileTree) :
    Prop where
  located : ∀ entry ∈ entries, ∃ place, after.locate entry.1 = .ok place ∧
    after.isDirectory place = false
  texts : ∀ place, after.files.find? place =
    (after.lastTo place entries).or (before.files.find? place)

/-- What was written is there, each text at the place where its path leads, and the last one
counts. -/
theorem Writes.holdsLast (h : Writes before entries after)
    (normal : ∀ entry ∈ entries, (Path.ofString entry.1).text = entry.1) :
    before.HoldsLast entries after := by
  induction h with
  | nil tree => exact ⟨by simp, fun place => rfl⟩
  | @cons before next after path content rest first later ih =>
    obtain ⟨place, written⟩ := exists_written first
    have keeps := later.keeps
    have holds := ih fun entry member => normal entry (List.mem_cons_of_mem _ member)
    have located : after.locate path = .ok place := by
      have inNext := written.located
      rw [normal (path, content) List.mem_cons_self] at inNext
      exact keeps.more.locate inNext
    refine ⟨fun entry member => ?_, fun other => ?_⟩
    · rcases List.mem_cons.mp member with rfl | member
      -- There is a file at the place now, and later no directory is made of it.
      · have file : next.isFile place = true := by
          rw [isFile, Dictionary.contains, find?_files_of_written written, if_pos rfl]
          rfl
        refine ⟨place, located, eq_false_of_ne_true fun is => ?_⟩
        exact absurd (keeps.apart place file is) (by simp [written.noDirectory])
      · exact holds.located entry member
    · rw [holds.texts, lastTo_cons, find?_files_of_written written, Option.or_assoc]
      by_cases here : place = other
      · rw [if_pos here, if_pos (leadsTo_iff.mpr (here ▸ located)), Option.some_or]
      · have elsewhere : ¬after.leadsTo other path = true := by
          rw [leadsTo_iff, located, Except.ok.injEq]
          exact here
        rw [if_neg here, if_neg elsewhere, Option.none_or]

namespace HoldsLast

variable {entry : String × String}

/-- Places to which no path leads are left as they are. -/
theorem find?_of_none (holds : before.HoldsLast entries after)
    (none : ∀ entry ∈ entries, after.locate entry.1 ≠ .ok place) :
    after.files.find? place = before.files.find? place := by
  have empty : (entries.filter fun entry => after.leadsTo place entry.1) = [] := by
    rw [List.filter_eq_nil_iff]
    intro entry member leads
    exact none entry member (leadsTo_iff.mp leads)
  rw [holds.texts, lastTo, empty]
  rfl

/-- An entry that is alone at its place is read back. -/
theorem read_of_alone (holds : before.HoldsLast entries after) (member : entry ∈ entries)
    (alone : ∀ other ∈ entries, after.locate other.1 = after.locate entry.1 → other = entry) :
    after.read entry.1 = .ok entry.2 := by
  obtain ⟨place, located, noDirectory⟩ := holds.located entry member
  have inFilter : entry ∈ entries.filter fun other => after.leadsTo place other.1 :=
    List.mem_filter.mpr ⟨member, leadsTo_iff.mpr located⟩
  have last : (entries.filter fun other => after.leadsTo place other.1).getLast? = some entry := by
    rw [List.getLast?_eq_some_getLast (List.ne_nil_of_mem inFilter), Option.some.injEq]
    have found := List.getLast_mem (List.ne_nil_of_mem inFilter)
    obtain ⟨among, leads⟩ := List.mem_filter.mp found
    exact alone _ among ((leadsTo_iff.mp leads).trans located.symm)
  have text : after.files.find? place = some entry.2 := by
    rw [holds.texts, lastTo, last]
    rfl
  rw [read, located, ok_bind, if_neg (by simp [noDirectory]), text]
  rfl

end HoldsLast

end MoveBindings.FileTree
