import Mathlib.Data.List.Perm.Basic
import MoveBindings.Proofs.Emission.Indexes
import MoveBindings.Proofs.Text.Lines

/-!
# The lines of a project's index

The index of a project has three lines for each package: its import, its export
and the call that loads its parsers. All other lines are the same for all
projects with packages. So packages in another order give the same lines in
another order.
-/

namespace MoveBindings

open TypeScript

namespace TypeScript.Printer

variable {α : Type} {p : Printer}

theorem statements_append (first second : List Statement) :
    p.statements (first ++ second) = p.statements first ++ p.statements second := by
  induction first with
  | nil => rfl
  | cons statement rest ih =>
    rw [List.cons_append, statements, statements, ih, List.append_assoc]

/-- Statements of one line each have these lines. -/
theorem statements_map (make : α → Statement) {text : α → String}
    (line : ∀ a, make a = .line (text a)) (elements : List α) :
    p.statements (elements.map make) = elements.map fun a => p.line (text a) := by
  induction elements with
  | nil => rfl
  | cons first rest ih =>
    rw [List.map_cons, statements, line, statement, ih]
    rfl

/-- Nodes of a group, of one line each, have these lines, without a blank line between them. -/
theorem nodesAfter_group (group : Group) (together : separates group group = false)
    (make : α → Node) {text : α → String} (kind : ∀ a, (make a).group = group)
    (line : ∀ a, p.node (make a) = .ok [text a]) (elements : List α) (rest : List Node) :
    p.nodesAfter (some group) (elements.map make ++ rest) = do
      return elements.map text ++ (← p.nodesAfter (some group) rest) := by
  induction elements with
  | nil => simp
  | cons first others ih =>
    rw [List.map_cons, List.cons_append, nodesAfter, line, kind, ih, ok_bind]
    cases p.nodesAfter (some group) rest with
    | error problem => rfl
    | ok lines => simp only [ok_bind, pure_bind, Option.any_some, together]; rfl

/-- A blank line stands before a function. -/
theorem nodesAfter_function {function : Function} {lines : List String}
    (laidOut : p.node (.function function) = .ok lines) (group : Group) :
    p.nodesAfter (some group) [.function function] = .ok ("" :: lines) := by
  have kind : (Node.function function).group = .declarations := rfl
  have apart : separates group .declarations = true := by cases group <;> rfl
  have after : p.nodesAfter (some .declarations) [] = .ok [] := rfl
  rw [nodesAfter, laidOut, ok_bind, kind, after, ok_bind, Option.any_some, apart]
  exact congrArg (fun rest => Except.ok ("" :: rest)) (List.append_nil lines)

/-- The lines of imports, exports and a function: a blank line stands before the exports, if there
are any, and before the function. -/
theorem nodesAfter_links (first : Link) (imports exports : List Link) {function : Function}
    {lines : List String} (laidOut : p.node (.function function) = .ok lines) :
    p.nodesAfter none (.importFrom first :: imports.map .importFrom ++ exports.map .exportFrom ++
        [.function function]) =
      .ok (first.importText :: (imports.map Link.importText ++
        ((if exports = [] then [] else [""]) ++
          (exports.map Link.exportText ++ "" :: lines)))) := by
  have afterImports : p.nodesAfter (some .imports) (exports.map .exportFrom ++
      [.function function]) =
      .ok ((if exports = [] then [] else [""]) ++
        (exports.map Link.exportText ++ "" :: lines)) := by
    cases exports with
    | nil => exact nodesAfter_function laidOut .imports
    | cons link rest =>
      have others := p.nodesAfter_group .exports rfl .exportFrom (fun _ => rfl)
        (fun _ => rfl) rest [.function function]
      rw [nodesAfter_function laidOut] at others
      rw [List.map_cons, List.cons_append, nodesAfter, Node.group, others]
      rfl
  have grouped := p.nodesAfter_group .imports rfl .importFrom (fun _ => rfl)
    (fun _ => rfl) imports (exports.map .exportFrom ++ [.function function])
  rw [afterImports] at grouped
  rw [List.cons_append, List.cons_append, List.append_assoc, nodesAfter, Node.group, grouped]
  rfl

end TypeScript.Printer

namespace Environment

open IndexFile

variable {env : Environment} {p : Printer}

/-- The lines of the function that makes a project's collection of parsers. -/
def projectFunctionLines (p : Printer) (children : List Child) : List String :=
  p.block (Function.header { signature := { name := "getProjectRepo", returnType := parserRepo } })
    (p.deeper.statements [newRepo] ++
      children.map (fun child => p.deeper.line (child.boundName ++ ".loadParsers(repo);")) ++
      p.deeper.statements finishRepo) ""

/-- The lines of the index of a project with the given children. -/
def projectLines (env : Environment) (p : Printer) (children : List Child) : List String :=
  let links := children.map Child.link
  Link.importText ⟨env.settings.runtimeModule, .names [parserRepo]⟩ ::
    (links.map Link.importText ++ ((if links = [] then [] else [""]) ++
      (links.map Link.exportText ++ "" :: projectFunctionLines p children)))

theorem lines_projectScript (packages : List String) :
    p.lines (env.projectScript packages) =
      .ok (env.projectLines p (packages.map env.packageEntry)) := by
  have calls := p.deeper.statements_map loadStatement (fun _ => rfl)
    (packages.map env.packageEntry)
  refine p.nodesAfter_links _ _ _ ?_
  rw [Printer.node, ← List.singleton_append, List.append_assoc, Printer.statements_append,
    Printer.statements_append, calls, ← List.append_assoc]
  rfl

theorem projectFunctionLines_perm {children others : List Child} (same : children.Perm others) :
    (projectFunctionLines p children).Perm (projectFunctionLines p others) :=
  ((((same.map _).append_left _).append_right _).cons _).append_right _

/-- Children in another order give the same lines in another order. -/
theorem projectLines_perm {children others : List Child} (same : children.Perm others) :
    (env.projectLines p children).Perm (env.projectLines p others) := by
  have links := same.map Child.link
  have blank : (if children.map Child.link = [] then [] else [""]) =
      if others.map Child.link = [] then [] else [""] := by
    have empty : children.map Child.link = [] ↔ others.map Child.link = [] := by
      rw [← List.length_eq_zero_iff, links.length_eq, List.length_eq_zero_iff]
    simp only [empty]
  rw [projectLines, projectLines, blank]
  refine .cons _ ((links.map _).append (.append_left _ ((links.map _).append (.cons _ ?_))))
  exact projectFunctionLines_perm same

/-- Packages in another order give an index with the same lines in another order. -/
theorem layOut_projectScript_perm {packages others : List String} (same : packages.Perm others)
    (path : String) :
    ∃ text otherText, env.layOut path (env.projectScript packages) = .ok ⟨path, text⟩ ∧
      env.layOut path (env.projectScript others) = .ok ⟨path, otherText⟩ ∧
      (Text.lines text).Perm (Text.lines otherText) := by
  have laidOut (names : List String) :
      env.layOut path (env.projectScript names) = .ok ⟨path, "\n".intercalate
        (env.projectLines ⟨env.indent, 0⟩ (names.map env.packageEntry)) ++ "\n"⟩ := by
    rw [layOut, Printer.file, lines_projectScript]
    rfl
  refine ⟨_, _, laidOut packages, laidOut others, ?_⟩
  have some (children : List Child) : env.projectLines ⟨env.indent, 0⟩ children ≠ [] :=
    List.cons_ne_nil _ _
  rw [Text.lines_intercalate (some _), Text.lines_intercalate (some _)]
  exact ((projectLines_perm (same.map _)).flatMap_right _).append_right _

end Environment

end MoveBindings
