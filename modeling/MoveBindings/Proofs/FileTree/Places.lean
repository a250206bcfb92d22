import MoveBindings.FileTree
import MoveBindings.Proofs.Outcomes
import MoveBindings.Proofs.Path.Sources

/-!
# Where paths lead

A path that leads somewhere is followed component by component through
directories. So it leads to the same place when there are more directories, and
from where one path leads two others without double dots lead to different places
unless they have the same components.
-/

namespace MoveBindings

namespace Path

/-- A path as one is read from a text: its root is one that a text can have, and its components are
components of a text. -/
structure IsNormal (p : Path) : Prop where
  root : p.root ∈ ["", "/", "//"]
  proper : ∀ name ∈ p.components, IsComponent name

theorem isNormal_ofString (text : String) : (ofString text).IsNormal := by
  refine ⟨?_, fun name found => isComponent_of_mem_ofString found⟩
  unfold ofString rootOf
  split <;> simp

theorem IsNormal.join {p q : Path} (first : p.IsNormal) (second : q.IsNormal) :
    (p.join q).IsNormal := by
  unfold Path.join
  split
  · refine ⟨first.root, fun name found => ?_⟩
    rcases List.mem_append.mp found with inFirst | inSecond
    · exact first.proper name inFirst
    · exact second.proper name inSecond
  · exact second

/-- To go on from a directory by two paths is to go on by both of them together. -/
theorem join_assoc (directory p q : Path) :
    (directory.join p).join q = directory.join (p.join q) := by
  unfold join
  by_cases below : q.root = "" <;> by_cases above : p.root = "" <;> simp [below, above]

/-- Slashes at the start of a text are no components. -/
theorem components_ofString_slash (text : String) :
    (ofString ("/" ++ text)).components = (ofString text).components := by
  have slash : ("/" : String).toList = ['/'] := rfl
  have start := Text.splitOn_append_cons '/' [] text.toList
  rw [List.nil_append] at start
  simp [ofString, slash, start, Text.splitOn]

/-- A text of components with slashes between them does not start with one. -/
theorem head?_intercalate {names : List String} (proper : ∀ name ∈ names, IsComponent name) :
    ("/".intercalate names).toList.head? ≠ some '/' := by
  rw [← root_ofString_eq_empty_iff, ofString_intercalate proper]

theorem rootOf_slash {text : List Char} (start : text.head? ≠ some '/') :
    rootOf ('/' :: text) = "/" ∧ rootOf ('/' :: '/' :: text) = "//" := by
  cases text with
  | nil => exact ⟨rfl, rfl⟩
  | cons first others =>
    have other : first ≠ '/' := by simpa using start
    simp [rootOf, other]

/-- Every path that is read from a text is what its own text denotes. -/
theorem IsNormal.ofString_text {p : Path} (normal : p.IsNormal) : ofString p.text = p := by
  obtain ⟨root, names⟩ := p
  obtain ⟨known, proper⟩ := normal
  have inner := head?_intercalate proper
  have components := components_ofString_intercalate proper
  have slash : ("/" : String).toList = ['/'] := rfl
  have slashes : ("//" : String).toList = ['/', '/'] := rfl
  simp only [List.mem_cons, List.not_mem_nil, or_false] at known
  rcases known with rfl | rfl | rfl
  · exact Path.ofString_text rfl proper
  · rw [Path.mk.injEq]
    constructor
    · simpa [ofString, text, slash] using (rootOf_slash inner).1
    · rwa [text, if_neg (by simp), components_ofString_slash]
  · rw [Path.mk.injEq]
    constructor
    · simpa [ofString, text, slashes] using (rootOf_slash inner).2
    · have twice : ("//" : String) = "/" ++ "/" := rfl
      rwa [text, if_neg (by simp), twice, String.append_assoc, components_ofString_slash,
        components_ofString_slash]

end Path

namespace FileTree

variable {tree other : FileTree} {place found : Location} {names : List String} {path : String}

/-- Every directory of the one tree is one of the other. -/
def HasDirectoriesOf (other tree : FileTree) : Prop :=
  ∀ place, tree.isDirectory place = true → other.isDirectory place = true

/-- More directories do not change where names lead. -/
theorem HasDirectoriesOf.follow (more : other.HasDirectoriesOf tree)
    (h : tree.follow place names = .ok found) : other.follow place names = .ok found := by
  fun_induction FileTree.follow tree place names with
  | case1 place => exact h
  | case2 place name rest inside stays ih =>
    rw [FileTree.follow, if_pos (more _ inside), if_pos stays]
    exact ih h
  | case3 place rest inside stays ih =>
    rw [FileTree.follow, if_pos (more _ inside), if_neg stays, if_pos rfl]
    exact ih h
  | case4 => cases h
  | case5 place name rest inside stays up short ih =>
    rw [FileTree.follow, if_pos (more _ inside), if_neg stays, if_neg up, if_neg short]
    exact ih h
  | case6 => cases h
  | case7 => cases h

theorem HasDirectoriesOf.locate (more : other.HasDirectoriesOf tree)
    (h : tree.locate path = .ok found) : other.locate path = .ok found := by
  unfold FileTree.locate at h ⊢
  split at h
  · cases h
  · next noNull =>
    rw [if_neg noNull]
    split at h
    · cases h
    · next nonempty =>
      rw [if_neg nonempty]
      split at h
      · cases h
      · next short =>
        rw [if_neg short]
        exact more.follow h

/-- Names are followed one part after the other. -/
theorem follow_append (tree : FileTree) (place : Location) (names more : List String) :
    tree.follow place (names ++ more) =
      tree.follow place names >>= fun found => tree.follow found more := by
  fun_induction FileTree.follow tree place names with
  | case1 place => rfl
  | case2 place name rest inside stays ih =>
    rw [List.cons_append, FileTree.follow, if_pos inside, if_pos stays, ih]
  | case3 place rest inside stays ih =>
    rw [List.cons_append, FileTree.follow, if_pos inside, if_neg stays, if_pos rfl, ih]
  | case4 place name rest inside stays up long =>
    rw [List.cons_append, FileTree.follow, if_pos inside, if_neg stays, if_neg up, if_pos long]
    rfl
  | case5 place name rest inside stays up short ih =>
    rw [List.cons_append, FileTree.follow, if_pos inside, if_neg stays, if_neg up, if_neg short,
      ih]
  | case6 place name rest outside file =>
    rw [List.cons_append, FileTree.follow, if_neg outside, if_pos file]
    rfl
  | case7 place name rest outside noFile =>
    rw [List.cons_append, FileTree.follow, if_neg outside, if_neg noFile]
    rfl

/-- Pieces that are no components lead nowhere else. -/
theorem follow_filter (h : tree.follow place names = .ok found) :
    tree.follow place (names.filter fun name => name ≠ "" ∧ name ≠ ".") = .ok found := by
  fun_induction FileTree.follow tree place names with
  | case1 place => exact h
  | case2 place name rest inside stays ih =>
    have dropped : ¬(name ≠ "" ∧ name ≠ ".") := fun kept => stays.elim kept.1 kept.2
    rw [List.filter_cons_of_neg (by simpa using dropped)]
    exact ih h
  | case3 place rest inside stays ih =>
    rw [List.filter_cons_of_pos (by decide), FileTree.follow, if_pos inside, if_neg stays,
      if_pos rfl]
    exact ih h
  | case4 => cases h
  | case5 place name rest inside stays up short ih =>
    have kept : name ≠ "" ∧ name ≠ "." := not_or.mp stays
    rw [List.filter_cons_of_pos (by simpa using kept), FileTree.follow, if_pos inside,
      if_neg stays, if_neg up, if_neg short]
    exact ih h
  | case6 => cases h
  | case7 => cases h

/-- Without double dots, components lead down. -/
theorem eq_append_of_follow (proper : ∀ name ∈ names, Path.IsComponent name)
    (noUps : ".." ∉ names) (h : tree.follow place names = .ok found) : found = place ++ names := by
  fun_induction FileTree.follow tree place names with
  | case1 place =>
    cases h
    rw [List.append_nil]
  | case2 place name rest inside stays ih =>
    have component := proper name List.mem_cons_self
    rcases stays with empty | dot
    · exact absurd empty component.ne_empty
    · exact absurd dot component.ne_dot
  | case3 => exact absurd List.mem_cons_self noUps
  | case4 => cases h
  | case5 place name rest inside stays up short ih =>
    rw [ih (fun other later => proper other (List.mem_cons_of_mem name later))
      (fun later => noUps (List.mem_cons_of_mem name later)) h, List.append_assoc]
    rfl
  | case6 => cases h
  | case7 => cases h

/-- The place where the components of a path are followed from. -/
def start (p : Path) : Location := if p.root = "" then [] else [rootComponent]

/-- The place of a path is found by its components. -/
theorem follow_of_locate (h : tree.locate path = .ok found) :
    tree.follow (start (Path.ofString path)) (Path.ofString path).components = .ok found := by
  have starts : start (Path.ofString path) =
      if path.toList.head? = some '/' then [rootComponent] else [] := by
    have relative := Path.root_ofString_eq_empty_iff path
    by_cases slash : path.toList.head? = some '/'
    · rw [start, if_neg (mt relative.mp fun other => other slash), if_pos slash]
    · rw [start, if_pos (relative.mpr slash), if_neg slash]
  unfold FileTree.locate at h
  split at h
  · cases h
  · split at h
    · cases h
    · split at h
      · cases h
      · rw [starts]
        exact follow_filter h

/-- Below one directory, different paths that go nowhere up lead to different places. -/
theorem eq_of_locate_join {directory p q : Path} (normal : directory.IsNormal)
    (normalLeft : p.IsNormal) (normalRight : q.IsNormal) (innerLeft : p.IsInner)
    (innerRight : q.IsInner) (left : tree.locate (directory.join p).text = .ok found)
    (right : tree.locate (directory.join q).text = .ok found) : p = q := by
  have below {r : Path} (normalBelow : r.IsNormal) (inner : r.IsInner)
      (located : tree.locate (directory.join r).text = .ok found) :
      ∃ above, tree.follow (start directory) directory.components = .ok above ∧
        found = above ++ r.components := by
    have followed := follow_of_locate located
    rw [(normal.join normalBelow).ofString_text, Path.join, if_pos inner.relative, follow_append]
      at followed
    obtain ⟨above, reached, followed⟩ := exists_of_bind_eq_ok followed
    exact ⟨above, reached, eq_append_of_follow normalBelow.proper inner.noUps followed⟩
  obtain ⟨above, reached, rfl⟩ := below normalLeft innerLeft left
  obtain ⟨above', reached', same⟩ := below normalRight innerRight right
  cases reached.symm.trans reached'
  obtain ⟨root, names⟩ := p
  obtain ⟨root', names'⟩ := q
  cases innerLeft.relative
  cases innerRight.relative
  rw [Path.mk.injEq]
  exact ⟨rfl, List.append_cancel_left same⟩

end FileTree

end MoveBindings
