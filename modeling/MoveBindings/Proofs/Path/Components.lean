import MoveBindings.Path.Basic

/-!
# Components of a path's text

A slash in a text separates the components of what stands before it from those
of what follows. Text that is put together from names with slashes between them
therefore denotes exactly these names, as long as each of them is one component.
-/

namespace MoveBindings

namespace Text

theorem splitOn_ne_nil (separator : Char) (text : List Char) : splitOn separator text ≠ [] := by
  cases text with
  | nil => simp [splitOn]
  | cons c rest =>
    unfold splitOn
    split
    · simp
    · split <;> simp

/-- A text without the separator is one piece. -/
theorem splitOn_of_notMem {separator : Char} {text : List Char} (absent : separator ∉ text) :
    splitOn separator text = [text] := by
  induction text with
  | nil => rfl
  | cons c rest ih =>
    obtain ⟨other, absentLater⟩ := List.ne_and_not_mem_of_not_mem_cons absent
    simp [splitOn, Ne.symm other, ih absentLater]

/-- The separator ends a piece, wherever it stands. -/
theorem splitOn_append_cons (separator : Char) (before after : List Char) :
    splitOn separator (before ++ separator :: after) =
      splitOn separator before ++ splitOn separator after := by
  induction before with
  | nil => simp [splitOn]
  | cons c rest ih =>
    by_cases here : c = separator
    · simp [splitOn, here, ih]
    · obtain ⟨piece, pieces, shape⟩ := List.exists_cons_of_ne_nil (splitOn_ne_nil separator rest)
      simp [splitOn, here, ih, shape]

/-- No piece contains the separator. -/
theorem notMem_of_mem_splitOn {separator : Char} {text piece : List Char}
    (found : piece ∈ splitOn separator text) : separator ∉ piece := by
  induction text generalizing piece with
  | nil =>
    rw [splitOn, List.mem_singleton] at found
    simp [found]
  | cons c rest ih =>
    obtain ⟨first, others, shape⟩ := List.exists_cons_of_ne_nil (splitOn_ne_nil separator rest)
    rw [shape] at ih
    by_cases here : c = separator
    · simp only [splitOn, here, if_true, List.mem_cons, shape] at found
      rcases found with rfl | found
      · simp
      · exact ih (List.mem_cons.mpr found)
    · simp only [splitOn, here, if_false, shape, List.mem_cons] at found
      rcases found with rfl | found
      · exact List.not_mem_cons_of_ne_of_not_mem (Ne.symm here) (ih List.mem_cons_self)
      · exact ih (List.mem_cons_of_mem first found)

end Text

namespace Path

/-- A name that is one component of a path. -/
structure IsComponent (name : String) : Prop where
  ne_empty : name ≠ ""
  ne_dot : name ≠ "."
  no_slash : '/' ∉ name.toList

/-- A component that does not lead out of a directory. -/
structure IsEntry (name : String) : Prop extends IsComponent name where
  ne_up : name ≠ ".."

/-- A slash between two texts separates their components. -/
theorem components_ofString_append (before after : String) :
    (ofString (before ++ "/" ++ after)).components =
      (ofString before).components ++ (ofString after).components := by
  have slash : ("/" : String).toList = ['/'] := rfl
  simp [ofString, slash, Text.splitOn_append_cons]

/-- A text that is one component denotes it. -/
theorem components_ofString_name {name : String} (proper : IsComponent name) :
    (ofString name).components = [name] := by
  simp [ofString, Text.splitOn_of_notMem proper.no_slash, proper.ne_empty, proper.ne_dot]

/-- All components of a text are such names. -/
theorem isComponent_of_mem_ofString {text name : String}
    (found : name ∈ (ofString text).components) : IsComponent name := by
  simp only [ofString, List.mem_filter, List.mem_map, decide_eq_true_eq] at found
  obtain ⟨⟨piece, cut, rfl⟩, ne_empty, ne_dot⟩ := found
  refine ⟨ne_empty, ne_dot, ?_⟩
  rw [String.toList_ofList]
  exact Text.notMem_of_mem_splitOn cut

/-- Names with slashes between them denote these names. -/
theorem components_ofString_intercalate {names : List String}
    (proper : ∀ name ∈ names, IsComponent name) :
    (ofString ("/".intercalate names)).components = names := by
  induction names with
  | nil => rfl
  | cons name rest ih =>
    have first := components_ofString_name (proper name List.mem_cons_self)
    have others := ih fun other found => proper other (List.mem_cons_of_mem name found)
    cases rest with
    | nil => simpa using first
    | cons next later =>
      rw [String.intercalate_cons_cons, components_ofString_append, first, others]
      rfl

/-- Only a slash at the start makes a path absolute. -/
theorem root_ofString_eq_empty_iff (text : String) :
    (ofString text).root = "" ↔ text.toList.head? ≠ some '/' := by
  rw [Ne, List.head?_eq_some_iff]
  unfold ofString rootOf
  split <;> simp_all

/-- A text that starts with a component denotes a relative path. -/
theorem root_ofString_append {name : String} (proper : IsComponent name) (rest : String) :
    (ofString (name ++ rest)).root = "" := by
  rw [root_ofString_eq_empty_iff, String.toList_append]
  obtain ⟨c, others, shape⟩ := List.exists_cons_of_ne_nil
    (mt String.toList_eq_nil_iff.mp proper.ne_empty)
  have noSlash := proper.no_slash
  rw [shape] at noSlash ⊢
  simpa [eq_comm] using List.ne_of_not_mem_cons noSlash

/-- Names with slashes between them denote a relative path. -/
theorem ofString_intercalate {names : List String} (proper : ∀ name ∈ names, IsComponent name) :
    ofString ("/".intercalate names) = ⟨"", names⟩ := by
  have relative : (ofString ("/".intercalate names)).root = "" := by
    cases names with
    | nil => rfl
    | cons name rest =>
      have first := proper name List.mem_cons_self
      cases rest with
      | nil => simpa using root_ofString_append first ""
      | cons next later =>
        rw [String.intercalate_cons_cons, String.append_assoc]
        exact root_ofString_append first _
  calc ofString ("/".intercalate names)
      = ⟨(ofString ("/".intercalate names)).root,
          (ofString ("/".intercalate names)).components⟩ := rfl
    _ = ⟨"", names⟩ := by rw [relative, components_ofString_intercalate proper]

/-- A relative path of components is what its text denotes. -/
theorem ofString_text {p : Path} (relative : p.root = "")
    (proper : ∀ name ∈ p.components, IsComponent name) : ofString p.text = p := by
  obtain ⟨root, names⟩ := p
  cases relative
  by_cases empty : names = []
  · subst empty
    rfl
  · simpa [text, empty] using ofString_intercalate proper

end Path

end MoveBindings
