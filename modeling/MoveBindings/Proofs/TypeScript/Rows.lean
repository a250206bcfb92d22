import MoveBindings.Proofs.FirstFailure
import MoveBindings.Proofs.Text.Lines
import MoveBindings.TypeScript.Layout

/-!
# The rows of a file

A row is a line of a file without its indentation: a blank line, an import or
export, or code that stands in a number of braces. The rows of a file do not
depend on the printer. A file is laid out when its nodes stand where they may,
and its text is then that of its rows. Otherwise layout stops at the first node
that is out of place, or at the first member of a class that is.
-/

namespace MoveBindings.TypeScript

/-- A line of a file without its indentation. -/
inductive Row where
  | blank
  | link (text : String)
  | code (depth : Nat) (text : String)
deriving DecidableEq, Repr

namespace Row

/-- What stands on a row. -/
def text : Row → String
  | .blank => ""
  | .link text => text
  | .code _ text => text

/-- How many braces a row stands in. -/
def depth : Row → Nat
  | .blank | .link _ => 0
  | .code depth _ => depth

/-- The rows of a header with what stands in its braces, one level deeper. -/
def block (depth : Nat) (header : String) (inside : List Row) (footer : String) : List Row :=
  .code depth (header ++ " \x7b") :: inside ++ [.code depth ("\x7d" ++ footer)]

end Row

mutual

/-- The rows of a statement that stands in a number of braces. -/
def Statement.rows (depth : Nat) : Statement → List Row
  | .line text => [.code depth text]
  | .block header body footer => Row.block depth header (bodyRows (depth + 1) body) footer

/-- The rows of statements, one after the other. -/
def bodyRows (depth : Nat) : List Statement → List Row
  | [] => []
  | first :: rest => first.rows depth ++ bodyRows depth rest

end

namespace Node

/-- The rows of a member of a class. -/
def memberRows : Node → List Row
  | .property declared => [.code 1 (declared.name ++ ": " ++ declared.type ++ ";")]
  | .constructor c => Row.block 1 c.header (bodyRows 2 c.body) ""
  | .method m => Row.block 1 m.header (bodyRows 2 m.body) ""
  | _ => []

/-- The rows of the members of a class. `separated` says whether a blank one comes first. -/
def classRows (separated : Bool) : List Node → List Row
  | [] => []
  | first :: rest =>
    (if separated then [.blank] else []) ++ first.memberRows ++
      classRows (Printer.endsSection first) rest

/-- The rows of a node of a file. -/
def rows : Node → List Row
  | .importFrom link => [.link link.importText]
  | .exportFrom link => [.link link.exportText]
  | .typeAlias declared => [.code 0 declared.text]
  | .function f => Row.block 0 f.header (bodyRows 1 f.body) ""
  | .classDecl head members => Row.block 0 head.header (classRows false members) ""
  | _ => []

/-- The rows of nodes that follow a node of the group `before`, if any. -/
def rowsAfter (before : Option Group) : List Node → List Row
  | [] => []
  | first :: rest =>
    (if before.any fun group => Printer.separates group first.group then [.blank] else []) ++
      first.rows ++ rowsAfter (some first.group) rest

/-- Whether a node may stand in a class. -/
def IsMember : Node → Prop
  | .property _ | .constructor _ | .method _ => True
  | _ => False

/-- Whether a node may stand in a file, whatever its members are. -/
def IsTopLevel : Node → Prop
  | .importFrom _ | .exportFrom _ | .typeAlias _ | .function _ | .classDecl _ _ => True
  | _ => False

/-- Whether a node may stand in a file. -/
def StandsInFile : Node → Prop
  | .importFrom _ | .exportFrom _ | .typeAlias _ | .function _ => True
  | .classDecl _ members => ∀ member ∈ members, member.IsMember
  | _ => False

/-- A node at which layout stops, with the error: it is out of place itself, or it is a class and
the error is about the first member that is out of place. -/
inductive StopsAt : Node → LayoutError → Prop
  | here {node : Node} (misplaced : ¬node.IsTopLevel) : StopsAt node (.notInFile node.kindName)
  | inside {head : ClassHead} {before after : List Node} {member : Node}
      (earlier : ∀ other ∈ before, other.IsMember) (misplaced : ¬member.IsMember) :
      StopsAt (.classDecl head (before ++ member :: after)) (.notInClass member.kindName)

end Node

namespace Script

/-- The rows of a file. A file without nodes has a blank one. -/
def rows (file : Script) : List Row :=
  match file.nodes with
  | [] => [.blank]
  | nodes => Node.rowsAfter none nodes

/-- Layout of a file stops with an error at its first node that is out of place or has a member
that is. -/
def StopsAt (file : Script) (error : LayoutError) : Prop :=
  ∃ before node after, file.nodes = before ++ node :: after ∧
    (∀ earlier ∈ before, earlier.StandsInFile) ∧ node.StopsAt error

end Script

namespace Printer

variable {p : Printer} {node : Node} {nodes : List Node} {error : LayoutError}

/-- The printer a number of levels deeper. -/
def nested (p : Printer) (depth : Nat) : Printer := { p with level := p.level + depth }

/-- The indentation of lines a number of levels deep. -/
def margin (p : Printer) (copies : Nat) : String := String.join (List.replicate copies p.indent)

/-- The line of a row. -/
def row (p : Printer) : Row → String
  | .blank => ""
  | .link text => text
  | .code depth text => (p.nested depth).line text

theorem row_code (p : Printer) (depth : Nat) (text : String) :
    p.row (.code depth text) = p.margin (p.level + depth).toNat ++ text := rfl

theorem margin_add (p : Printer) (copies more : Nat) :
    p.margin (copies + more) = p.margin copies ++ p.margin more := by
  simp [margin, ← List.replicate_append_replicate]

theorem margin_eq_empty_iff {copies : Nat} : p.margin copies = "" ↔ copies = 0 ∨ p.indent = "" := by
  induction copies with
  | zero => exact ⟨fun _ => .inl rfl, fun _ => rfl⟩
  | succ copies ih =>
    have first : p.margin (copies + 1) = p.indent ++ p.margin copies := by
      simp [margin, List.replicate_succ]
    rw [first, String.append_eq_empty_iff, ih]
    constructor
    · exact fun nothing => .inr nothing.1
    · intro nothing
      have indent := nothing.resolve_left (Nat.succ_ne_zero copies)
      exact ⟨indent, .inr indent⟩

@[simp] theorem nested_zero (p : Printer) : p.nested 0 = p := by
  simp [nested]

theorem deeper_nested (p : Printer) (depth : Nat) :
    (p.nested depth).deeper = p.nested (depth + 1) := by
  simp [nested, deeper, Int.add_assoc]

theorem deeper_eq (p : Printer) : p.deeper = p.nested 1 := rfl

theorem block_nested (p : Printer) (depth : Nat) (header footer : String) (inside : List Row) :
    (p.nested depth).block header (inside.map p.row) footer =
      (Row.block depth header inside footer).map p.row := by
  simp [block, Row.block, row]

/-! ## Lines of nodes that may stand where they do -/

mutual

theorem statement_nested (p : Printer) (depth : Nat) : (statement : Statement) →
    (p.nested depth).statement statement = (statement.rows depth).map p.row
  | .line _ => rfl
  | .block header body footer => by
    rw [Printer.statement, Statement.rows, deeper_nested, statements_nested p (depth + 1) body,
      block_nested]

theorem statements_nested (p : Printer) (depth : Nat) : (body : List Statement) →
    (p.nested depth).statements body = (bodyRows depth body).map p.row
  | [] => rfl
  | first :: rest => by
    rw [statements, bodyRows, statement_nested p depth first, statements_nested p depth rest,
      List.map_append]

end

theorem member_of_isMember (stands : node.IsMember) :
    p.deeper.member node = .ok (node.memberRows.map p.row) := by
  cases node with
  | property => rfl
  | constructor | method =>
    rw [member, deeper_eq, deeper_nested, statements_nested, block_nested, Node.memberRows]
  | _ => cases stands

theorem members_of_areMembers (stand : ∀ node ∈ nodes, node.IsMember) (separated : Bool) :
    p.deeper.members separated nodes = .ok ((Node.classRows separated nodes).map p.row) := by
  induction nodes generalizing separated with
  | nil => rfl
  | cons first rest ih =>
    obtain ⟨here, later⟩ := List.forall_mem_cons.mp stand
    rw [members, member_of_isMember here, ih later, Node.classRows, List.map_append,
      List.map_append]
    cases separated <;> rfl

theorem node_of_standsInFile (stands : node.StandsInFile) :
    p.node node = .ok (node.rows.map p.row) := by
  have outer := p.block_nested 0
  rw [nested_zero] at outer
  cases node with
  | importFrom | exportFrom => rfl
  | typeAlias => rw [Printer.node, Node.rows, List.map_singleton, row, nested_zero]
  | function => rw [Printer.node, deeper_eq, statements_nested, outer, Node.rows]
  | classDecl head members =>
    rw [Printer.node, members_of_areMembers stands, ok_bind, outer, Node.rows]
    rfl
  | _ => cases stands

theorem nodesAfter_of_stand (stand : ∀ node ∈ nodes, node.StandsInFile) (before : Option Group) :
    p.nodesAfter before nodes = .ok ((Node.rowsAfter before nodes).map p.row) := by
  induction nodes generalizing before with
  | nil => rfl
  | cons first rest ih =>
    obtain ⟨here, later⟩ := List.forall_mem_cons.mp stand
    rw [nodesAfter, node_of_standsInFile here, ih later, Node.rowsAfter, List.map_append,
      List.map_append]
    cases before.any fun group => separates group first.group <;> rfl

theorem rows_ne_nil (stands : node.StandsInFile) : node.rows ≠ [] := by
  cases node with
  | importFrom | exportFrom | typeAlias | function | classDecl => exact List.cons_ne_nil _ _
  | _ => cases stands

/-- A file of nodes that may stand there has the lines of its rows. -/
theorem file_of_stand {script : Script} (stand : ∀ node ∈ script.nodes, node.StandsInFile) :
    p.file script = .ok (Text.unlines (script.rows.map p.row)) := by
  obtain ⟨nodes⟩ := script
  rw [file, lines, nodesAfter_of_stand stand]
  cases nodes with
  | nil => rfl
  | cons first rest =>
    have some : (Node.rowsAfter none (first :: rest)).map p.row ≠ [] := by
      have here := rows_ne_nil (stand first List.mem_cons_self)
      simp [Node.rowsAfter, here]
    rw [Script.rows, ← Text.intercalate_eq_unlines some]
    rfl

/-! ## Where layout stops -/

theorem member_eq_error_iff :
    p.member node = .error error ↔ ¬node.IsMember ∧ error = .notInClass node.kindName := by
  cases node with
  | property | constructor | method => exact ⟨nofun, fun misplaced => absurd trivial misplaced.1⟩
  | _ =>
    constructor
    · rintro ⟨⟩
      exact ⟨id, rfl⟩
    · rintro ⟨_, rfl⟩
      rfl

theorem exists_member_iff : (∃ lines, p.member node = .ok lines) ↔ node.IsMember := by
  simp only [exists_ok_iff, ne_eq, member_eq_error_iff, not_and]
  constructor
  · intro none
    by_contra misplaced
    exact none _ misplaced rfl
  · exact fun stands _ misplaced => absurd stands misplaced

/-- The members of a class fail as they do one by one. -/
theorem members_eq_error_iff (separated : Bool) :
    p.members separated nodes = .error error ↔ nodes.mapM p.member = .error error := by
  induction nodes generalizing separated with
  | nil => exact ⟨nofun, nofun⟩
  | cons first rest ih =>
    simp only [members, List.mapM_cons, bind_eq_error_iff, ih]
    exact or_congr_right (exists_congr fun here => and_congr_right fun _ => or_congr_right
      ⟨nofun, nofun⟩)

theorem kind_of_members_eq_error {separated : Bool}
    (failed : p.members separated nodes = .error error) : ∃ kind, error = .notInClass kind := by
  rw [members_eq_error_iff, mapM_eq_error_iff] at failed
  obtain ⟨_, member, _, _, _, misplaced⟩ := failed
  exact ⟨member.kindName, (member_eq_error_iff.mp misplaced).2⟩

theorem exists_members_iff (separated : Bool) :
    (∃ lines, p.members separated nodes = .ok lines) ↔ ∀ node ∈ nodes, node.IsMember := by
  rw [exists_ok_congr fun _ => members_eq_error_iff separated, exists_mapM_eq_ok_iff]
  simp only [exists_member_iff]

theorem node_eq_error_iff : p.node node = .error error ↔ node.StopsAt error := by
  cases node with
  | importFrom | exportFrom | typeAlias | function =>
    constructor
    · exact nofun
    · rintro ⟨misplaced⟩
      exact absurd trivial misplaced
  | classDecl head members =>
    rw [Printer.node, bind_eq_error_iff, members_eq_error_iff, mapM_eq_error_iff]
    simp only [exists_member_iff, member_eq_error_iff]
    constructor
    · rintro (⟨before, member, after, rfl, earlier, misplaced, rfl⟩ | ⟨_, _, impossible⟩)
      · exact .inside earlier misplaced
      · cases impossible
    · intro stops
      cases stops with
      | here misplaced => exact absurd trivial misplaced
      | inside earlier misplaced => exact .inl ⟨_, _, _, rfl, earlier, misplaced, rfl⟩
  | _ =>
    constructor
    · rintro ⟨⟩
      exact .here id
    · rintro ⟨_⟩
      rfl

theorem exists_node_iff : (∃ lines, p.node node = .ok lines) ↔ node.StandsInFile := by
  refine ⟨fun ⟨lines, laidOut⟩ => ?_, fun stands => ⟨_, node_of_standsInFile stands⟩⟩
  cases node with
  | importFrom | exportFrom | typeAlias | function => trivial
  | classDecl head members =>
    obtain ⟨inside, found, _⟩ := exists_of_bind_eq_ok laidOut
    exact (exists_members_iff false).mp ⟨inside, found⟩
  | _ => cases laidOut

/-- Nodes fail as they do one by one. -/
theorem nodesAfter_eq_error_iff (before : Option Group) :
    p.nodesAfter before nodes = .error error ↔ nodes.mapM p.node = .error error := by
  induction nodes generalizing before with
  | nil => exact ⟨nofun, nofun⟩
  | cons first rest ih =>
    simp only [nodesAfter, List.mapM_cons, bind_eq_error_iff, ih]
    exact or_congr_right (exists_congr fun here => and_congr_right fun _ => or_congr_right
      ⟨nofun, nofun⟩)

/-- A file cannot be laid out when one of its nodes cannot be, and the first such node says why. -/
theorem file_eq_error_iff_mapM {script : Script} :
    p.file script = .error error ↔ script.nodes.mapM p.node = .error error := by
  rw [file, bind_eq_error_iff, lines, nodesAfter_eq_error_iff]
  exact or_iff_left fun ⟨_, _, impossible⟩ => nomatch impossible

/-- Whether and why a file cannot be laid out depends on its nodes only. -/
theorem file_eq_error_iff {script : Script} :
    p.file script = .error error ↔ script.StopsAt error := by
  rw [file_eq_error_iff_mapM, mapM_eq_error_iff]
  simp only [exists_node_iff, node_eq_error_iff]
  rfl

theorem exists_file_iff {script : Script} :
    (∃ text, p.file script = .ok text) ↔ ∀ node ∈ script.nodes, node.StandsInFile := by
  rw [exists_ok_congr fun _ => file_eq_error_iff_mapM, exists_mapM_eq_ok_iff]
  simp only [exists_node_iff]

/-- A file can be laid out when all its nodes may stand there, and its text is that of its rows. -/
theorem file_eq_ok_iff {script : Script} {text : String} :
    p.file script = .ok text ↔ (∀ node ∈ script.nodes, node.StandsInFile) ∧
      text = Text.unlines (script.rows.map p.row) := by
  constructor
  · intro laidOut
    have stand := exists_file_iff.mp ⟨text, laidOut⟩
    rw [file_of_stand stand] at laidOut
    exact ⟨stand, (Except.ok.inj laidOut).symm⟩
  · rintro ⟨stand, rfl⟩
    exact file_of_stand stand

end Printer

end MoveBindings.TypeScript
