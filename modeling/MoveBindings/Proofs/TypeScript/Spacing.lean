import MoveBindings.Proofs.TypeScript.Rows

/-!
# Blank rows

Something is written on all rows of a node but the blank ones between the
members of a class, and these stand one at a time. So do the blank rows between
the nodes of a file, which neither starts nor ends with one.
-/

namespace MoveBindings.TypeScript

/-- A row with something on it, its indentation included. -/
def Row.IsWritten : Row → Prop
  | .blank => False
  | .link text => text ≠ ""
  | .code depth text => 0 < depth ∨ text ≠ ""

namespace Printer

variable {p : Printer} {row : Row}

theorem row_ne_empty_of_text (some : row.text ≠ "") : p.row row ≠ "" := by
  cases row with
  | blank | link text => exact some
  | code depth text =>
    rw [row_code, ne_eq, String.append_eq_empty_iff]
    exact fun nothing => some nothing.2

/-- A written row outside of braces has text on it. -/
theorem row_ne_empty_of_depth_zero (written : row.IsWritten) (outer : row.depth = 0) :
    p.row row ≠ "" := by
  cases row with
  | blank => cases written
  | link text => exact row_ne_empty_of_text written
  | code depth text => exact row_ne_empty_of_text (written.resolve_left (outer ▸ Nat.lt_irrefl 0))

/-- A written row has text or indentation on it. -/
theorem row_ne_empty (written : row.IsWritten) (indent : p.indent ≠ "") (level : 0 ≤ p.level) :
    p.row row ≠ "" := by
  cases row with
  | blank => cases written
  | link text => exact row_ne_empty_of_text written
  | code depth text =>
    cases written with
    | inl inside =>
      rw [row_code, ne_eq, String.append_eq_empty_iff, margin_eq_empty_iff]
      rintro ⟨none | nothing, _⟩
      · omega
      · exact indent nothing
    | inr some => exact row_ne_empty_of_text some

end Printer

/-- Written rows with no more than one blank row between two of them. -/
inductive AreSpaced : List Row → Prop
  | nil : AreSpaced []
  | next {row : Row} {rest : List Row} (written : row.IsWritten) (later : AreSpaced rest) :
      AreSpaced (row :: rest)
  | gap {row other : Row} {rest : List Row} (written : row.IsWritten)
      (later : AreSpaced (other :: rest)) : AreSpaced (row :: .blank :: other :: rest)

namespace AreSpaced

variable {rows first second inside : List Row} {row : Row}

theorem append (before : AreSpaced first) (after : AreSpaced second) :
    AreSpaced (first ++ second) := by
  induction before with
  | nil => exact after
  | next written _ ih => exact .next written ih
  | gap written _ ih => exact .gap written ih

/-- A blank row may stand between two rows. -/
theorem append_blank (before : AreSpaced first) (some : first ≠ []) (after : AreSpaced second)
    (others : second ≠ []) : AreSpaced (first ++ .blank :: second) := by
  induction before with
  | nil => exact absurd rfl some
  | @next row rest written later ih =>
    cases rest with
    | nil =>
      obtain ⟨other, more, rfl⟩ := List.exists_cons_of_ne_nil others
      exact .gap written after
    | cons => exact .next written (ih (List.cons_ne_nil _ _))
  | gap written _ ih => exact .gap written (ih (List.cons_ne_nil _ _))

theorem append_separated (separated : Bool) (before : AreSpaced first) (some : first ≠ [])
    (after : AreSpaced second) (others : second ≠ []) :
    AreSpaced (first ++ ((if separated then [.blank] else []) ++ second)) := by
  cases separated with
  | false => exact before.append after
  | true => exact before.append_blank some after others

theorem block (nested : AreSpaced inside) (depth : Nat) (header footer : String) :
    AreSpaced (Row.block depth header inside footer) :=
  .next (.inr (by simp)) (nested.append (.next (.inr (by simp)) .nil))

theorem head_isWritten (h : AreSpaced (row :: rows)) : row.IsWritten := by
  cases h with
  | next written => exact written
  | gap written => exact written

theorem blank_or_isWritten (h : AreSpaced rows) : ∀ row ∈ rows, row = .blank ∨ row.IsWritten := by
  induction h with
  | nil => exact nofun
  | next written _ ih => exact List.forall_mem_cons.mpr ⟨.inr written, ih⟩
  | gap written _ ih =>
    exact List.forall_mem_cons.mpr ⟨.inr written, List.forall_mem_cons.mpr ⟨.inl rfl, ih⟩⟩

/-- Of two rows that follow each other one is written. -/
theorem isWritten_or_next (h : AreSpaced rows) {i : Nat} {row next : Row}
    (here : rows[i]? = some row) (after : rows[i + 1]? = some next) :
    row.IsWritten ∨ next.IsWritten := by
  induction h generalizing i with
  | nil => cases here
  | next written _ ih =>
    cases i with
    | zero => exact .inl (Option.some.inj here ▸ written)
    | succ i => exact ih here after
  | gap written later ih =>
    match i with
    | 0 => exact .inl (Option.some.inj here ▸ written)
    | 1 => exact .inr (Option.some.inj after ▸ later.head_isWritten)
    | i + 2 => exact ih here after

end AreSpaced

/-! ## Rows of files -/

mutual

theorem areSpaced_statement (depth : Nat) : (s : Statement) → AreSpaced (s.rows (depth + 1))
  | .line _ => .next (.inl depth.succ_pos) .nil
  | .block header body footer => (areSpaced_body (depth + 1) body).block _ header footer

theorem areSpaced_body (depth : Nat) : (body : List Statement) →
    AreSpaced (bodyRows (depth + 1) body)
  | [] => .nil
  | first :: rest => (areSpaced_statement depth first).append (areSpaced_body depth rest)

end

namespace Node

variable {node : Node} {nodes : List Node} {rows : List Row}

theorem areSpaced_memberRows (node : Node) : AreSpaced node.memberRows := by
  cases node with
  | property => exact .next (.inl Nat.one_pos) .nil
  | constructor c => exact (areSpaced_body 1 c.body).block ..
  | method m => exact (areSpaced_body 1 m.body).block ..
  | _ => exact .nil

theorem memberRows_ne_nil (stands : node.IsMember) : node.memberRows ≠ [] := by
  cases node with
  | property | constructor | method => exact List.cons_ne_nil _ _
  | _ => cases stands

/-- The members of a class may follow rows of it, after a blank row or not. -/
theorem areSpaced_append_classRows (before : AreSpaced rows) (some : rows ≠ [])
    (stand : ∀ node ∈ nodes, node.IsMember) (separated : Bool) :
    AreSpaced (rows ++ classRows separated nodes) := by
  induction nodes generalizing rows separated with
  | nil => rwa [classRows, List.append_nil]
  | cons first rest ih =>
    obtain ⟨here, later⟩ := List.forall_mem_cons.mp stand
    have upTo := before.append_separated separated some (areSpaced_memberRows first)
      (memberRows_ne_nil here)
    rw [classRows, ← List.append_assoc]
    exact ih upTo (by simp [some]) later _

theorem areSpaced_rows (stands : node.StandsInFile) : AreSpaced node.rows := by
  cases node with
  | importFrom | exportFrom | typeAlias =>
    refine .next ?_ .nil
    simp [Row.IsWritten, Link.importText, Link.exportText, TypeAlias.text]
  | function f => exact (areSpaced_body 0 f.body).block ..
  | classDecl head members =>
    have start : AreSpaced [.code 0 (head.header ++ " \x7b")] := .next (.inr (by simp)) .nil
    have finish : AreSpaced [.code 0 ("\x7d" ++ "")] := .next (.inr (by simp)) .nil
    exact (areSpaced_append_classRows start (List.cons_ne_nil _ _) stands false).append finish
  | _ => cases stands

/-- The nodes of a file may follow rows of it, after a blank row or not. -/
theorem areSpaced_append_rowsAfter (before : AreSpaced rows) (some : rows ≠ [])
    (stand : ∀ node ∈ nodes, node.StandsInFile) (group : Option Group) :
    AreSpaced (rows ++ rowsAfter group nodes) := by
  induction nodes generalizing rows group with
  | nil => rwa [rowsAfter, List.append_nil]
  | cons first rest ih =>
    obtain ⟨here, later⟩ := List.forall_mem_cons.mp stand
    have upTo := before.append_separated
      (group.any fun group => Printer.separates group first.group) some (areSpaced_rows here)
      (Printer.rows_ne_nil here)
    rw [rowsAfter, ← List.append_assoc]
    exact ih upTo (by simp [some]) later _

end Node

/-- The rows of a file with nodes are spaced. -/
theorem Script.areSpaced_rows {script : Script} (some : script.nodes ≠ [])
    (stand : ∀ node ∈ script.nodes, node.StandsInFile) : AreSpaced script.rows := by
  obtain ⟨nodes⟩ := script
  cases nodes with
  | nil => exact absurd rfl some
  | cons first rest =>
    obtain ⟨here, later⟩ := List.forall_mem_cons.mp stand
    exact Node.areSpaced_append_rowsAfter (Node.areSpaced_rows here) (Printer.rows_ne_nil here)
      later _

/-- A file without nodes has a blank row, and in any other file something is written around the
blank rows. -/
theorem Script.blank_or_isWritten {script : Script}
    (stand : ∀ node ∈ script.nodes, node.StandsInFile) :
    ∀ row ∈ script.rows, row = .blank ∨ row.IsWritten := by
  obtain ⟨nodes⟩ := script
  cases nodes with
  | nil => exact List.forall_mem_singleton.mpr (.inl rfl)
  | cons first rest =>
    exact (Script.areSpaced_rows (List.cons_ne_nil first rest) stand).blank_or_isWritten

end MoveBindings.TypeScript
