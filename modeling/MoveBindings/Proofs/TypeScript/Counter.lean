import MoveBindings.Proofs.TypeScript.Rows

/-!
# Layout with a level that is counted

Files can be laid out with one level that is raised at each opening brace and
lowered at each closing one. What fails stops at once, so that the level stays
as high as it is there. A printer gives the same texts and is left at the same
level.
-/

namespace MoveBindings.TypeScript

/-- What reads and changes a level. A failure leaves the level as it is. -/
abbrev Counted := ExceptT LayoutError (StateM Int)

namespace Counted

variable {α β : Type}

/-- What is done at a level, and the level after it. -/
def atLevel (level : Int) (action : Counted α) : Except LayoutError α × Int :=
  (ExceptT.run action).run level

/-! ## Layout -/

/-- A line at the level that is reached. -/
def line (indent text : String) : Counted String := do
  let level ← get
  return ({ indent, level } : Printer).line text

/-- Lines inside braces, where the level is one higher. -/
def braces (indent header : String) (inside : Counted (List String)) (footer : String) :
    Counted (List String) := do
  let opening ← line indent (header ++ " \x7b")
  modify (· + 1)
  let body ← inside
  modify (· - 1)
  let closing ← line indent ("\x7d" ++ footer)
  return opening :: body ++ [closing]

mutual

/-- The lines of a statement. -/
def statement (indent : String) : Statement → Counted (List String)
  | .line text => do return [← line indent text]
  | .block header body footer => braces indent header (statements indent body) footer

/-- The lines of statements, one after the other. -/
def statements (indent : String) : List Statement → Counted (List String)
  | [] => return []
  | first :: rest => do
    let here ← statement indent first
    let later ← statements indent rest
    return here ++ later

end

/-- The lines of a member of a class. -/
def member (indent : String) : Node → Counted (List String)
  | .property declared => do return [← line indent (declared.name ++ ": " ++ declared.type ++ ";")]
  | .constructor c => braces indent c.header (statements indent c.body) ""
  | .method m => braces indent m.header (statements indent m.body) ""
  | node => throw (.notInClass node.kindName)

/-- The lines of the members of a class. `separated` says whether a blank line comes first. -/
def members (indent : String) (separated : Bool) : List Node → Counted (List String)
  | [] => return []
  | first :: rest => do
    let here ← member indent first
    let later ← members indent (Printer.endsSection first) rest
    return (if separated then [""] else []) ++ here ++ later

/-- The lines of a node of a file. -/
def node (indent : String) : Node → Counted (List String)
  | .importFrom link => return [link.importText]
  | .exportFrom link => return [link.exportText]
  | .typeAlias declared => do return [← line indent declared.text]
  | .function f => braces indent f.header (statements indent f.body) ""
  | .classDecl head listed => braces indent head.header (members indent false listed) ""
  | other => throw (.notInFile other.kindName)

/-- The lines of nodes that follow a node of the group `before`, if any. -/
def nodesAfter (indent : String) (before : Option Group) : List Node → Counted (List String)
  | [] => return []
  | first :: rest => do
    let here ← node indent first
    let later ← nodesAfter indent (some first.group) rest
    let blank := before.any fun group => Printer.separates group first.group
    return (if blank then [""] else []) ++ here ++ later

/-- The text of a file. -/
def file (indent : String) (script : Script) : Counted String := do
  let lines ← nodesAfter indent none script.nodes
  return "\n".intercalate lines ++ "\n"

/-- The texts of files, one after the other. -/
def files (indent : String) (scripts : List Script) :
    StateM Int (List (Except LayoutError String)) :=
  scripts.mapM fun script => (file indent script).run

/-! ## What is left of the level -/

/-- The level that is left by a result: `after`, or the one that belongs to the error. -/
def leftBy (after : Int) (failed : LayoutError → Int) : Except LayoutError α → Int
  | .ok _ => after
  | .error error => failed error

/-- From a level an action comes to another one with a result, unless it fails. -/
def Yields (action : Counted α) (before after : Int) (failed : LayoutError → Int)
    (result : Except LayoutError α) : Prop :=
  action.atLevel before = (result, leftBy after failed result)

section

variable {before between after level : Int} {failed : LayoutError → Int} {action : Counted α}
  {result : Except LayoutError α}

theorem Yields.bind {next : α → Counted β} {later : α → Except LayoutError β}
    (first : action.Yields before between failed result)
    (second : ∀ a, (next a).Yields between after failed (later a)) :
    (action >>= next).Yields before after failed (result >>= later) := by
  change (ExceptT.run action).run before = _ at first
  rw [Yields, atLevel, ExceptT.run_bind, StateT.run_bind, first]
  cases result with
  | error error => rfl
  | ok a => exact second a

theorem Yields.of_errors {others : LayoutError → Int}
    (h : action.Yields before after failed result)
    (same : ∀ error, result = .error error → failed error = others error) :
    action.Yields before after others result := by
  cases result with
  | error error => rwa [Yields, leftBy, ← same error rfl]
  | ok => exact h

theorem yields_return (a : α) : Yields (return a) level level failed (.ok a) := rfl

theorem yields_line (indent text : String) :
    (line indent text).Yields level level failed (.ok (({ indent, level } : Printer).line text)) :=
  rfl

theorem yields_modify (change : Int → Int) :
    Yields (modify change) level (change level) failed (.ok ()) := rfl

/-- Inside braces the level is one higher, and after them as it was. -/
theorem Yields.braces {inside : Counted (List String)} {body : Except LayoutError (List String)}
    (within : inside.Yields (level + 1) (level + 1) failed body) (indent header footer : String) :
    (Counted.braces indent header inside footer).Yields level level failed
      (body >>= fun lines => .ok (({ indent, level } : Printer).block header lines footer)) := by
  have lowered : Yields (modify (· - 1)) (level + 1) level failed (.ok ()) := by
    have yields : Yields (modify (· - 1)) (level + 1) (level + 1 - 1) failed (.ok ()) :=
      yields_modify (· - 1)
    rwa [Int.add_sub_cancel] at yields
  exact (yields_line ..).bind fun _ => (yields_modify (· + 1)).bind fun _ => within.bind fun _ =>
    lowered.bind fun _ => (yields_line ..).bind fun _ => yields_return _

end

/-! ## The printer -/

section

variable {failed : LayoutError → Int}

mutual

theorem yields_statement (p : Printer) : (s : Statement) →
    (statement p.indent s).Yields p.level p.level failed (.ok (p.statement s))
  | .line text => (yields_line p.indent text).bind fun _ => yields_return _
  | .block header body footer => (yields_statements p.deeper body).braces p.indent header footer

theorem yields_statements (p : Printer) : (body : List Statement) →
    (statements p.indent body).Yields p.level p.level failed (.ok (p.statements body))
  | [] => rfl
  | first :: rest =>
    (yields_statement p first).bind fun _ => (yields_statements p rest).bind fun _ =>
      yields_return _

end

/-- A member that is out of place fails at the level of the members. -/
theorem yields_member (p : Printer) (m : Node) :
    (member p.indent m).Yields p.level p.level (fun _ => p.level) (p.member m) := by
  cases m with
  | constructor c => exact (yields_statements p.deeper c.body).braces p.indent c.header ""
  | method m => exact (yields_statements p.deeper m.body).braces p.indent m.header ""
  | _ => rfl

theorem yields_members (p : Printer) (separated : Bool) (listed : List Node) :
    (members p.indent separated listed).Yields p.level p.level (fun _ => p.level)
      (p.members separated listed) := by
  induction listed generalizing separated with
  | nil => rfl
  | cons first rest ih =>
    exact (yields_member p first).bind fun _ => (ih _).bind fun _ => yields_return _

/-- A class with a member that is out of place leaves the level one higher. -/
theorem yields_node (p : Printer) (n : Node) :
    (node p.indent n).Yields p.level p.level (fun error => p.level + error.openClasses)
      (p.node n) := by
  cases n with
  | typeAlias declared => exact (yields_line p.indent declared.text).bind fun _ => yields_return _
  | function f => exact (yields_statements p.deeper f.body).braces p.indent f.header ""
  | classDecl head listed =>
    refine Yields.braces ?_ p.indent head.header ""
    refine (yields_members p.deeper false listed).of_errors fun error failed => ?_
    obtain ⟨kind, rfl⟩ := Printer.kind_of_members_eq_error failed
    rfl
  | importFrom | exportFrom => rfl
  | _ => exact congrArg (Prod.mk _) (Int.add_zero p.level).symm

theorem yields_nodesAfter (p : Printer) (before : Option Group) (nodes : List Node) :
    (nodesAfter p.indent before nodes).Yields p.level p.level
      (fun error => p.level + error.openClasses) (p.nodesAfter before nodes) := by
  induction nodes generalizing before with
  | nil => rfl
  | cons first rest ih =>
    exact (yields_node p first).bind fun _ => (ih _).bind fun _ => yields_return _

theorem yields_file (p : Printer) (script : Script) :
    (file p.indent script).Yields p.level p.level (fun error => p.level + error.openClasses)
      (p.file script) :=
  (yields_nodesAfter p none script.nodes).bind fun _ => yields_return _

/-- Counting gives what the printer gives, and leaves the level where the printer is left. -/
theorem atLevel_file (p : Printer) (script : Script) :
    (file p.indent script).atLevel p.level = ((p.run script).1, (p.run script).2.level) := by
  rw [show (file p.indent script).atLevel p.level = _ from yields_file p script, Printer.run]
  cases p.file script <;> rfl

end

end Counted

/-! ## One printer for many files -/

namespace Printer

/-- Lays out files one after the other, each with the printer that the one before has left. -/
def runAll (p : Printer) : List Script → List (Except LayoutError String) × Printer
  | [] => ([], p)
  | first :: rest =>
    ((p.run first).1 :: ((p.run first).2.runAll rest).1, ((p.run first).2.runAll rest).2)

theorem run_indent (p : Printer) (script : Script) : (p.run script).2.indent = p.indent := by
  rw [run]
  cases p.file script <;> rfl

/-- Counting over many files gives what one printer gives for them. -/
theorem run_files (p : Printer) (scripts : List Script) :
    (Counted.files p.indent scripts).run p.level =
      ((p.runAll scripts).1, (p.runAll scripts).2.level) := by
  induction scripts generalizing p with
  | nil => rfl
  | cons first rest ih =>
    have here : (Counted.file p.indent first).run.run p.level = _ := Counted.atLevel_file p first
    have later := ih (p.run first).2
    rw [run_indent] at later
    rw [Counted.files, List.mapM_cons, StateT.run_bind, here, runAll]
    change ((Counted.files p.indent rest >>= _).run _) = _
    rw [StateT.run_bind, later]
    rfl

end Printer

end MoveBindings.TypeScript
