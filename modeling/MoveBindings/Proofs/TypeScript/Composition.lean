import MoveBindings.Proofs.TypeScript.Spacing
import MoveBindings.Proofs.TypeScript.Strings

/-!
# Files that are put together

The lines of a file are those of its first nodes and those of the others, with a
blank one between them where the groups change or a function or class follows.
No file starts with a blank line or has two of them in a row, and every file
ends with one end of a line.
-/

namespace MoveBindings.TypeScript

open Text

/-! ## Rows of nodes that follow others -/

namespace Node

variable {node : Node} {nodes : List Node}

/-- A node that stands between blank lines. -/
def IsDeclaration : Node → Prop
  | .function _ | .classDecl _ _ => True
  | _ => False

instance : DecidablePred IsDeclaration
  | .function _ | .classDecl _ _ => .isTrue trivial
  | .importFrom _ | .exportFrom _ | .typeAlias _ | .property _ | .constructor _ | .method _
  | .statement _ => .isFalse id

theorem separates_iff (group : Group) (stands : node.StandsInFile) :
    Printer.separates group node.group ↔ group ≠ node.group ∨ node.IsDeclaration := by
  have declared : node.group = .declarations ↔ node.IsDeclaration := by
    cases node with
    | importFrom | exportFrom | typeAlias => exact ⟨nofun, nofun⟩
    | function | classDecl => exact ⟨fun _ => trivial, fun _ => rfl⟩
    | _ => cases stands
  rw [Printer.separates, Bool.or_eq_true, bne_iff_ne, beq_iff_eq, declared]

theorem rowsAfter_append (before : Option Group) {first : List Node} (some : first ≠ [])
    (others : List Node) :
    rowsAfter before (first ++ others) =
      rowsAfter before first ++ rowsAfter (.some (first.getLast some).group) others := by
  induction first generalizing before with
  | nil => exact absurd rfl some
  | cons node rest ih =>
    rcases eq_or_ne rest [] with rfl | more
    · rw [List.singleton_append, rowsAfter, rowsAfter, rowsAfter, List.append_nil,
        List.getLast_singleton]
    · rw [List.cons_append, rowsAfter, ih _ more, rowsAfter, List.getLast_cons more]
      exact (List.append_assoc ..).symm

end Node

/-- The rows of files that are put together. -/
theorem Script.rows_append {first second : List Node} (some : first ≠ []) (others : second ≠ [])
    (stands : (second.head others).StandsInFile) :
    rows ⟨first ++ second⟩ =
      rows ⟨first⟩ ++
        (if (first.getLast some).group ≠ (second.head others).group ∨
          (second.head others).IsDeclaration then [.blank] else []) ++ rows ⟨second⟩ := by
  have rows_of_ne_nil : ∀ {nodes : List Node}, nodes ≠ [] →
      rows ⟨nodes⟩ = Node.rowsAfter none nodes := by
    intro nodes some
    cases nodes with
    | nil => exact absurd rfl some
    | cons => rfl
  have together : first ++ second ≠ [] := List.append_ne_nil_of_left_ne_nil some second
  rw [rows_of_ne_nil some, rows_of_ne_nil others, rows_of_ne_nil together,
    Node.rowsAfter_append none some, List.append_assoc]
  cases second with
  | nil => exact absurd rfl others
  | cons next rest =>
    have blank :
        (if Printer.separates (first.getLast some).group next.group then [Row.blank] else []) =
          if (first.getLast some).group ≠ next.group ∨ next.IsDeclaration then [Row.blank] else [] :=
      if_congr (Node.separates_iff _ stands) rfl rfl
    rw [List.head_cons, ← blank, Node.rowsAfter, Node.rowsAfter, List.append_assoc]
    rfl

/-! ## Ends of files -/

theorem getLast?_semicolon (text : String) : (text ++ ";").toList.getLast? = some ';' := by
  rw [String.toList_append]
  exact List.getLast?_concat

/-- A row that ends like a statement or a block. -/
def Row.IsEnded (row : Row) : Prop :=
  row.text.toList.getLast? = some ';' ∨ row.text.toList.getLast? = some '\x7d'

namespace Node

variable {node : Node} {nodes : List Node}

theorem exists_last_of_rows (stands : node.StandsInFile) :
    ∃ before row, node.rows = before ++ [row] ∧ row.IsEnded := by
  cases node with
  | importFrom | exportFrom | typeAlias =>
    exact ⟨[], _, rfl, .inl (getLast?_semicolon _)⟩
  | function | classDecl => exact ⟨_, _, rfl, .inr rfl⟩
  | _ => cases stands

theorem exists_last_of_rowsAfter (stand : ∀ node ∈ nodes, node.StandsInFile) (some : nodes ≠ [])
    (group : Option Group) :
    ∃ before row, rowsAfter group nodes = before ++ [row] ∧ row.IsEnded := by
  induction nodes generalizing group with
  | nil => exact absurd rfl some
  | cons first rest ih =>
    obtain ⟨here, later⟩ := List.forall_mem_cons.mp stand
    rcases eq_or_ne rest [] with rfl | more
    · obtain ⟨before, row, last, ended⟩ := exists_last_of_rows here
      have follows : rowsAfter group [first] = _ ++ first.rows ++ [] := rfl
      rw [last, List.append_nil, ← List.append_assoc] at follows
      exact ⟨_, row, follows, ended⟩
    · obtain ⟨before, row, last, ended⟩ := ih later more (.some first.group)
      have follows : rowsAfter group (first :: rest) = _ ++ rowsAfter (.some first.group) rest :=
        rfl
      rw [last, ← List.append_assoc] at follows
      exact ⟨_, row, follows, ended⟩

end Node

/-- A text that ends with one end of a line. -/
def EndsOnce (text : String) : Prop :=
  ∃ body : List Char, text.toList = body ++ ['\n'] ∧ body.getLast? ≠ some '\n'

namespace Printer

variable {p : Printer} {script : Script} {text : String}

theorem getLast?_row {row : Row} {c : Char} (last : row.text.toList.getLast? = some c) :
    (p.row row).toList.getLast? = some c := by
  cases row with
  | blank | link text => exact last
  | code depth text =>
    change text.toList.getLast? = some c at last
    rw [row_code, String.toList_append, List.getLast?_append, last]
    rfl

theorem endsOnce_of_file (made : p.file script = .ok text) : EndsOnce text := by
  obtain ⟨stand, rfl⟩ := p.file_eq_ok_iff.mp made
  obtain ⟨nodes⟩ := script
  cases nodes with
  | nil => exact ⟨[], by simp [Script.rows, row], nofun⟩
  | cons first rest =>
    obtain ⟨before, row, last, ended⟩ :=
      Node.exists_last_of_rowsAfter stand (List.cons_ne_nil first rest) none
    have rows : Script.rows ⟨first :: rest⟩ = before ++ [row] := last
    refine ⟨(unlines (before.map p.row)).toList ++ (p.row row).toList, ?_, ?_⟩
    · rw [rows, List.map_append, unlines_append, String.toList_append, List.append_assoc]
      simp
    · rw [List.getLast?_append]
      rcases ended with last | last <;> rw [getLast?_row last] <;> simp

theorem exists_first_of_rows {node : Node} (stands : node.StandsInFile) :
    ∃ row rest, node.rows = row :: rest ∧ row.depth = 0 := by
  cases node with
  | importFrom | exportFrom | typeAlias | function | classDecl => exact ⟨_, _, rfl, rfl⟩
  | _ => cases stands

/-- No file with nodes starts with a blank line. -/
theorem head_ne_nil_of_file (flat : ∀ part ∈ script.strings, IsFlat part) (indent : IsFlat p.indent)
    (made : p.file script = .ok text) (some : script.nodes ≠ []) :
    ∃ line rest, endedLines text = line :: rest ∧ line ≠ [] := by
  have stand := (p.file_eq_ok_iff.mp made).1
  have spaced := Script.areSpaced_rows some stand
  rw [endedLines_of_file flat indent made]
  obtain ⟨nodes⟩ := script
  cases nodes with
  | nil => exact absurd rfl some
  | cons first rest =>
    obtain ⟨row, others, rows, outer⟩ := exists_first_of_rows (stand first List.mem_cons_self)
    have start : Script.rows ⟨first :: rest⟩ = row :: (others ++ Node.rowsAfter _ rest) :=
      congrArg (· ++ Node.rowsAfter _ rest) rows
    rw [start] at spaced ⊢
    refine ⟨_, _, List.map_cons, fun blank => ?_⟩
    exact row_ne_empty_of_depth_zero spaced.head_isWritten outer (String.toList_eq_nil_iff.mp blank)

/-- No two blank lines follow each other where something is used for indentation. -/
theorem next_ne_nil_of_file (flat : ∀ part ∈ script.strings, IsFlat part)
    (indent : IsFlat p.indent ∧ p.indent ≠ "") (level : 0 ≤ p.level)
    (made : p.file script = .ok text) {i : Nat} (blank : (endedLines text)[i]? = some []) :
    (endedLines text)[i + 1]? ≠ some [] := by
  intro next
  have stand := (p.file_eq_ok_iff.mp made).1
  rw [endedLines_of_file flat indent.1 made, List.getElem?_map, Option.map_eq_some_iff]
    at blank next
  obtain ⟨row, here, empty⟩ := blank
  obtain ⟨other, after, emptyToo⟩ := next
  have nodes : script.nodes ≠ [] := by
    rintro none
    rw [Script.rows, none] at after
    cases after
  rcases (Script.areSpaced_rows nodes stand).isWritten_or_next here after with written | written
  · exact row_ne_empty written indent.2 level (String.toList_eq_nil_iff.mp empty)
  · exact row_ne_empty written indent.2 level (String.toList_eq_nil_iff.mp emptyToo)

/-- The lines of a file are those of its first nodes and those of the others, perhaps with a blank
one between them. -/
theorem endedLines_of_append {first second : List Node} (some : first ≠ []) (others : second ≠ [])
    (flat : ∀ part ∈ nodesStrings (first ++ second), IsFlat part) (indent : IsFlat p.indent)
    (stand : ∀ node ∈ first ++ second, node.StandsInFile) :
    ∃ start finish whole, p.file ⟨first⟩ = .ok start ∧ p.file ⟨second⟩ = .ok finish ∧
      p.file ⟨first ++ second⟩ = .ok whole ∧
      endedLines whole =
        endedLines start ++
          (if (first.getLast some).group ≠ (second.head others).group ∨
            (second.head others).IsDeclaration then [[]] else []) ++ endedLines finish := by
  obtain ⟨before, after⟩ := List.forall_mem_append.mp stand
  obtain ⟨flatStart, flatFinish⟩ := List.forall_mem_append.mp (nodesStrings_append .. ▸ flat)
  have start : p.file ⟨first⟩ = _ := file_of_stand before
  have finish : p.file ⟨second⟩ = _ := file_of_stand after
  have whole : p.file ⟨first ++ second⟩ = _ := file_of_stand stand
  refine ⟨_, _, _, start, finish, whole, ?_⟩
  rw [endedLines_of_file flatStart indent start, endedLines_of_file flatFinish indent finish,
    endedLines_of_file flat indent whole,
    Script.rows_append some others (after _ (List.head_mem others)), List.map_append,
    List.map_append]
  congr 2
  split <;> rfl

/-- Files are laid out piece by piece: their lines can be cut between any two nodes, their blank
lines stand alone and inside, one end of a line is their last, and the first node that cannot be
laid out says why a file cannot be. -/
theorem layout_is_compositional (p : Printer) :
    (∀ (first second : List Node) (some : first ≠ []) (others : second ≠ []), IsFlat p.indent →
      (∀ part ∈ nodesStrings (first ++ second), IsFlat part) →
      (∀ node ∈ first ++ second, ∃ lines, p.node node = .ok lines) →
      ∃ start finish whole, p.file ⟨first⟩ = .ok start ∧ p.file ⟨second⟩ = .ok finish ∧
        p.file ⟨first ++ second⟩ = .ok whole ∧
        endedLines whole =
          endedLines start ++
            (if (first.getLast some).group ≠ (second.head others).group ∨
              (second.head others).IsDeclaration then [[]] else []) ++ endedLines finish) ∧
      (∀ (script : Script) (text : String), p.file script = .ok text → EndsOnce text ∧
        (IsFlat p.indent → (∀ part ∈ script.strings, IsFlat part) →
          (script.nodes ≠ [] → ∃ line rest, endedLines text = line :: rest ∧ line ≠ []) ∧
          (p.indent ≠ "" → 0 ≤ p.level → ∀ i : Nat, (endedLines text)[i]? = some [] →
            (endedLines text)[i + 1]? ≠ some []))) ∧
      ∀ (script : Script) (error : LayoutError), p.file script = .error error ↔
        ∃ before node after, script.nodes = before ++ node :: after ∧
          (∀ earlier ∈ before, ∃ lines, p.node earlier = .ok lines) ∧
          p.node node = .error error := by
  refine ⟨fun first second some others indent flat made => ?_, fun script text made => ?_,
    fun script error => ?_⟩
  · exact endedLines_of_append some others flat indent fun node listed =>
      exists_node_iff.mp (made node listed)
  · refine ⟨endsOnce_of_file made, fun indent flat => ⟨head_ne_nil_of_file flat indent made, ?_⟩⟩
    exact fun used level i => next_ne_nil_of_file flat ⟨indent, used⟩ level made
  · rw [file_eq_error_iff_mapM, mapM_eq_error_iff]

/-- A function after an import. -/
theorem layout_is_compositional_before_function :
    let first : List Node := [.importFrom ⟨"aptos", .names ["HexString"]⟩]
    let second : List Node := [.function { signature := { name := "load" } }]
    ∃ start finish whole, ({} : Printer).file ⟨first⟩ = .ok start ∧
      ({} : Printer).file ⟨second⟩ = .ok finish ∧
      ({} : Printer).file ⟨first ++ second⟩ = .ok whole ∧
      endedLines whole = endedLines start ++ [[]] ++ endedLines finish := by
  intro first second
  have composes := (layout_is_compositional {}).1 first second (by decide) (by decide) (by decide)
    (by decide)
  refine composes fun node listed => ?_
  simp only [first, second, List.mem_append, List.mem_singleton] at listed
  rcases listed with rfl | rfl <;> exact ⟨_, rfl⟩

end Printer

end MoveBindings.TypeScript
