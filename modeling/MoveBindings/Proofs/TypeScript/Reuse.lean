import MoveBindings.Proofs.TypeScript.Counter
import MoveBindings.Proofs.TypeScript.Spacing
import MoveBindings.Proofs.TypeScript.Strings

/-!
# Printers that are used again

A printer that lays out many files is left one level deeper by each file that
fails inside a class, and as it was by all others. Whether a file fails does not
depend on the level, and the text of one that does not is only shifted by it.
-/

namespace MoveBindings.TypeScript

open Text

/-! ## Shifted lines -/

/-- Whether a row is an import or export. -/
def Row.isLink : Row → Bool
  | .link _ => true
  | _ => false

/-- The line of a row with a text in front, unless it is empty or that of an import or export. -/
def Row.shift (front : List Char) (row : Row) (line : List Char) : List Char :=
  if line = [] ∨ row.isLink then line else front ++ line

namespace Printer

variable {p : Printer}

/-- The printer before it is used. -/
def outermost (p : Printer) : Printer := { p with level := 0 }

/-- A text is that of a file at level zero, with as much indentation in front of its lines as
belongs to the level. -/
def IsShifted (p : Printer) (script : Script) (text : String) : Prop :=
  let front := (p.margin p.level.toNat).toList
  ∃ plain, p.outermost.file script = .ok plain ∧
    plain.toList = script.rows.flatMap (fun row => (p.outermost.row row).toList ++ ['\n']) ∧
    text.toList =
      script.rows.flatMap (fun row => row.shift front (p.outermost.row row).toList ++ ['\n']) ∧
    (IsFlat p.indent → (∀ part ∈ script.strings, IsFlat part) →
      (endedLines plain).length = script.rows.length ∧
        endedLines text = List.zipWith (Row.shift front) script.rows (endedLines plain))

/-- A row that is written is shifted by the indentation of the level. -/
theorem row_eq_shift (level : 0 ≤ p.level) {row : Row} (written : row = .blank ∨ row.IsWritten) :
    (p.row row).toList =
      row.shift (p.margin p.level.toNat).toList (p.outermost.row row).toList := by
  cases row with
  | blank => rfl
  | link text => exact (if_pos (.inr rfl)).symm
  | code depth text =>
    have inner : p.outermost.row (.code depth text) = p.margin depth ++ text := by
      rw [row_code, outermost, Int.zero_add, Int.toNat_natCast]
      rfl
    have outer : p.row (.code depth text) = p.margin p.level.toNat ++ (p.margin depth ++ text) := by
      rw [row_code, Int.toNat_add level (Int.natCast_nonneg depth), Int.toNat_natCast, margin_add,
        String.append_assoc]
    rw [inner, outer, Row.shift, String.toList_append]
    split
    · next empty =>
      have nothing := String.toList_eq_nil_iff.mp (empty.resolve_right nofun)
      obtain ⟨none, noText⟩ := String.append_eq_empty_iff.mp nothing
      -- Only where no indentation is used can the line of a written row be empty.
      have inside := (written.resolve_left nofun).resolve_right (not_not_intro noText)
      have indent := (margin_eq_empty_iff.mp none).resolve_left (Nat.ne_of_gt inside)
      rw [margin_eq_empty_iff.mpr (.inr indent)]
      rfl
    · rfl

/-- The text of a file is shifted by the level of the printer. -/
theorem isShifted_of_file {script : Script} {text : String} (level : 0 ≤ p.level)
    (made : p.file script = .ok text) : p.IsShifted script text := by
  have written := Script.blank_or_isWritten (p.file_eq_ok_iff.mp made).1
  have plain := file_of_stand (p := p.outermost) (p.file_eq_ok_iff.mp made).1
  have shifts : ∀ row ∈ script.rows, (p.row row).toList = _ := fun row inFile =>
    row_eq_shift level (written row inFile)
  refine ⟨_, plain, ?_, ?_, fun indent flat => ?_⟩
  · rw [toList_unlines, List.flatMap_map]
  · rw [(p.file_eq_ok_iff.mp made).2, toList_unlines, List.flatMap_map]
    exact List.flatMap_congr fun row inFile => congrArg (· ++ ['\n']) (shifts row inFile)
  · rw [endedLines_of_file (p := p.outermost) flat indent plain,
      endedLines_of_file flat indent made]
    refine ⟨List.length_map _, ?_⟩
    rw [List.zipWith_map_right, List.zipWith_self]
    exact List.map_congr_left shifts

/-! ## Sequences of files -/

theorem length_runAll (p : Printer) (scripts : List Script) :
    (p.runAll scripts).1.length = scripts.length := by
  induction scripts generalizing p with
  | nil => rfl
  | cons first rest ih => exact congrArg (· + 1) (ih _)

theorem runAll_append (p : Printer) (before after : List Script) :
    p.runAll (before ++ after) =
      ((p.runAll before).1 ++ ((p.runAll before).2.runAll after).1,
        ((p.runAll before).2.runAll after).2) := by
  induction before generalizing p with
  | nil => rfl
  | cons first rest ih =>
    rw [List.cons_append, runAll, ih]
    rfl

/-- One more file is laid out by the printer that is left. -/
theorem runAll_concat (p : Printer) (before : List Script) (script : Script) :
    (p.runAll (before ++ [script])).2 = ((p.runAll before).2.run script).2 := by
  rw [runAll_append]
  rfl

theorem run_fst (p : Printer) (script : Script) : (p.run script).1 = p.file script := by
  rw [run]
  cases p.file script <;> rfl

theorem run_level_le (p : Printer) (script : Script) : p.level ≤ (p.run script).2.level := by
  rw [run]
  cases p.file script with
  | ok => exact Int.le_refl _
  | error error => exact Int.le_add_of_nonneg_right (Int.natCast_nonneg _)

theorem runAll_indent (p : Printer) (scripts : List Script) :
    (p.runAll scripts).2.indent = p.indent := by
  induction scripts generalizing p with
  | nil => rfl
  | cons first rest ih => exact (ih _).trans (run_indent p first)

theorem runAll_level_le (p : Printer) (scripts : List Script) :
    p.level ≤ (p.runAll scripts).2.level := by
  induction scripts generalizing p with
  | nil => exact Int.le_refl _
  | cons first rest ih => exact Int.le_trans (run_level_le p first) (ih _)

/-- One printer lays out files as counting does. Each of them fails or not because of its nodes
alone, only a failure inside a class changes the level, by one, and the level only shifts texts. -/
theorem reuse_only_shifts (level : 0 ≤ p.level) (scripts : List Script) :
    (Counted.files p.indent scripts).run p.level =
        ((p.runAll scripts).1, (p.runAll scripts).2.level) ∧
      ∀ (before : List Script) (script : Script) (after : List Script),
        scripts = before ++ script :: after →
          let q := (p.runAll before).2
          let left := (p.runAll (before ++ [script])).2
          q.indent = p.indent ∧ p.level ≤ q.level ∧
            (p.runAll scripts).1[before.length]? = some (q.file script) ∧
            (∀ error, q.file script = .error error ↔ script.StopsAt error) ∧
            (∀ kind, q.file script = .error (.notInFile kind) → left = q) ∧
            (∀ kind, q.file script = .error (.notInClass kind) → left = q.deeper) ∧
            ∀ text, q.file script = .ok text → left = q ∧ q.IsShifted script text := by
  refine ⟨run_files p scripts, ?_⟩
  rintro before script after rfl q left
  have higher : p.level ≤ q.level := runAll_level_le p before
  have after_run : left = (q.run script).2 := runAll_concat p before script
  have at_index : (p.runAll (before ++ script :: after)).1[before.length]? =
      some (q.file script) := by
    rw [runAll_append, List.getElem?_append_right (Nat.le_of_eq (length_runAll p before)),
      length_runAll, Nat.sub_self, runAll, List.getElem?_cons_zero, run_fst]
  refine ⟨runAll_indent p before, higher, at_index, fun _ => q.file_eq_error_iff, ?_, ?_, ?_⟩
  · intro kind failed
    rw [after_run, run, failed]
    exact congrArg (Printer.mk q.indent) (Int.add_zero q.level)
  · intro kind failed
    rw [after_run, run, failed]
    rfl
  · intro text made
    refine ⟨?_, isShifted_of_file (Int.le_trans level higher) made⟩
    rw [after_run, run, made]

/-- A class that fails leaves the printer one level deeper, and the next file is shifted by it. -/
theorem reuse_only_shifts_after_failure :
    let failing : Script := ⟨[.classDecl { name := "Gem" } [.statement (.line "read();")]]⟩
    let next : Script := ⟨[.importFrom ⟨"aptos", .names ["HexString"]⟩,
      .typeAlias { name := "Owner", value := "HexString" }]⟩
    (({} : Printer).runAll [failing]).2 = ({} : Printer).deeper ∧
      ∃ text, (({} : Printer).runAll [failing, next]).1[1]? = some (.ok text) ∧
        ({} : Printer).deeper.IsShifted next text := by
  intro failing next
  obtain ⟨-, each⟩ := reuse_only_shifts (p := {}) (Int.le_refl 0) [failing, next]
  obtain ⟨-, -, -, -, -, inside, -⟩ := each [] failing [next] rfl
  obtain ⟨-, -, second, -, -, -, made⟩ := each [failing] next [] rfl
  have left : (({} : Printer).runAll [failing]).2 = ({} : Printer).deeper := inside "str" rfl
  rw [left] at second made
  obtain ⟨text, laidOut⟩ : ∃ text, ({} : Printer).deeper.file next = .ok text := ⟨_, rfl⟩
  exact ⟨left, text, second.trans (congrArg some laidOut), (made text laidOut).2⟩

end Printer

end MoveBindings.TypeScript
