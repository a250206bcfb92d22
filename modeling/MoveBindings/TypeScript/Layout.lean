import MoveBindings.TypeScript.Syntax

/-!
# Layout of generated TypeScript files

Imports, exports and type aliases form groups. A blank line separates groups
and surrounds every function and class; inside a class it follows every
constructor and method but not a property. Braced bodies are one level deeper
than their header. Sources that start with a dot stand between single quotes,
library names between double quotes. Every file ends with one newline.
-/

namespace MoveBindings.TypeScript

/-- A node where it cannot stand, named by its kind. -/
inductive LayoutError where
  | notInFile (kind : String)
  | notInClass (kind : String)
deriving DecidableEq, Repr

namespace LayoutError

/-- The report of an error. -/
def message : LayoutError → String
  | .notInFile kind => "Cannot render " ++ kind
  | .notInClass kind => "Cannot render class member " ++ kind

/-- How many classes were still open where layout stopped. -/
def openClasses : LayoutError → Nat
  | .notInFile _ => 0
  | .notInClass _ => 1

end LayoutError

namespace Node

/-- The kind of a node, as errors name it. -/
def kindName : Node → String
  | .importFrom _ => "ImportStatement"
  | .exportFrom _ => "ExportStatement"
  | .typeAlias _ => "TypeAlias"
  | .function _ => "FunctionDeclaration"
  | .classDecl _ _ => "ClassDeclaration"
  | .property _ => "PropertyDeclaration"
  | .constructor _ => "ConstructorDeclaration"
  | .method _ => "MethodDeclaration"
  | .statement (.line _) => "str"
  | .statement (.block _ _ _) => "Block"

end Node

/-- The groups of a file. Declarations stand alone. -/
inductive Group where
  | imports
  | exports
  | types
  | declarations
deriving DecidableEq, Repr

/-- The group of a node. -/
def Node.group : Node → Group
  | .importFrom _ => .imports
  | .exportFrom _ => .exports
  | .typeAlias _ => .types
  | _ => .declarations

/-! ## Texts of single lines -/

/-- A source between its quotes. -/
def quoteSource (source : String) : String :=
  if source.toList.head? = some '.' then "'" ++ source ++ "'" else "\"" ++ source ++ "\""

/-- Names between braces. -/
def braced (names : List String) : String := "\x7b " ++ ", ".intercalate names ++ " \x7d"

/-- The text of an import. -/
def Link.importText (link : Link) : String :=
  let what := match link.binding with
    | .whole boundName => "* as " ++ boundName
    | .names names => braced names
  "import " ++ what ++ " from " ++ quoteSource link.source ++ ";"

/-- The text of an export. Without names everything is exported. -/
def Link.exportText (link : Link) : String :=
  let what := match link.binding with
    | .whole boundName => "* as " ++ boundName
    | .names [] => "*"
    | .names names => braced names
  "export " ++ what ++ " from " ++ quoteSource link.source ++ ";"

/-- The text of a parameter. -/
def Parameter.text (p : Parameter) : String :=
  (if p.modifier = "" then "" else p.modifier ++ " ") ++ p.name ++
    (if p.type = "" then "" else ": " ++ p.type)

/-- Parameters separated by commas. -/
def paramsText (params : List Parameter) : String :=
  ", ".intercalate (params.map Parameter.text)

/-- Type parameters between angle brackets, or nothing when there are none. -/
def typeParamsText (params : List String) : String :=
  if params.isEmpty then "" else "<" ++ ", ".intercalate params ++ ">"

/-- The text of a signature, without the modifiers before its name. -/
def Signature.text (s : Signature) : String :=
  s.name ++ typeParamsText s.typeParams ++ "(" ++ paramsText s.params ++ ")" ++
    (if s.returnType = "" then "" else ": " ++ s.returnType)

/-- A keyword with a space after it, where it applies. -/
def keyword (applies : Bool) (word : String) : String := if applies then word ++ " " else ""

/-- The header of a function. -/
def Function.header (f : Function) : String :=
  keyword f.exported "export" ++ keyword f.signature.isAsync "async" ++ "function " ++
    f.signature.text

/-- The header of a method. -/
def Method.header (m : Method) : String :=
  keyword m.isStatic "static" ++ keyword m.signature.isAsync "async" ++ m.signature.text

/-- The header of a constructor. -/
def Constructor.header (c : Constructor) : String := "constructor(" ++ paramsText c.params ++ ")"

/-- The header of a class. -/
def ClassHead.header (c : ClassHead) : String :=
  keyword c.exported "export" ++ "class " ++ c.name ++ typeParamsText c.typeParams

/-- The text of a type alias. -/
def TypeAlias.text (a : TypeAlias) : String :=
  keyword a.exported "export" ++ "type " ++ a.name ++ " = " ++ a.value ++ ";"

/-! ## Lines of nodes -/

/-- A unit of indentation and the level that lines start at. A negative level indents by
nothing. -/
structure Printer where
  indent : String := "  "
  level : Int := 0
deriving DecidableEq, Repr

namespace Printer

/-- The printer one level deeper. -/
def deeper (p : Printer) : Printer := { p with level := p.level + 1 }

/-- A line at the printer's level. -/
def line (p : Printer) (text : String) : String :=
  String.join (List.replicate p.level.toNat p.indent) ++ text

/-- Lines inside braces. -/
def block (p : Printer) (header : String) (body : List String) (footer : String) : List String :=
  p.line (header ++ " \x7b") :: body ++ [p.line ("\x7d" ++ footer)]

mutual

/-- The lines of a statement. -/
def statement (p : Printer) : Statement → List String
  | .line text => [p.line text]
  | .block header body footer => p.block header (p.deeper.statements body) footer

/-- The lines of statements, one after the other. -/
def statements (p : Printer) : List Statement → List String
  | [] => []
  | first :: rest => p.statement first ++ p.statements rest

end

/-- The lines of a member of a class. -/
def member (p : Printer) : Node → Except LayoutError (List String)
  | .property property => .ok [p.line (property.name ++ ": " ++ property.type ++ ";")]
  | .constructor c => .ok (p.block c.header (p.deeper.statements c.body) "")
  | .method m => .ok (p.block m.header (p.deeper.statements m.body) "")
  | node => .error (.notInClass node.kindName)

/-- Whether a blank line follows a member when another one comes after it. -/
def endsSection : Node → Bool
  | .property _ => false
  | _ => true

/-- The lines of the members of a class. `separated` says whether a blank line comes first. -/
def members (p : Printer) (separated : Bool) : List Node → Except LayoutError (List String)
  | [] => .ok []
  | node :: rest => do
    let here ← p.member node
    let later ← p.members (endsSection node) rest
    return (if separated then [""] else []) ++ here ++ later

/-- The lines of a node of a file. -/
def node (p : Printer) : Node → Except LayoutError (List String)
  | .importFrom link => .ok [link.importText]
  | .exportFrom link => .ok [link.exportText]
  | .typeAlias declared => .ok [p.line declared.text]
  | .function f => .ok (p.block f.header (p.deeper.statements f.body) "")
  | .classDecl head members => do
    let body ← p.deeper.members false members
    return p.block head.header body ""
  | other => .error (.notInFile other.kindName)

/-- Whether a blank line stands between the nodes of two groups. -/
def separates (before after : Group) : Bool :=
  before != after || after == .declarations

/-- The lines of nodes that follow a node of the group `before`, if any. -/
def nodesAfter (p : Printer) (before : Option Group) : List Node →
    Except LayoutError (List String)
  | [] => .ok []
  | first :: rest => do
    let here ← p.node first
    let later ← p.nodesAfter (some first.group) rest
    let blank := before.any fun group => separates group first.group
    return (if blank then [""] else []) ++ here ++ later

/-- The lines of a file. -/
def lines (p : Printer) (file : Script) : Except LayoutError (List String) :=
  p.nodesAfter none file.nodes

/-- The text of a file. -/
def file (p : Printer) (file : Script) : Except LayoutError String := do
  return "\n".intercalate (← p.lines file) ++ "\n"

/-- Lays out a file and says at which level the printer is left: a class that could not be
finished stays open. -/
def run (p : Printer) (file : Script) : Except LayoutError String × Printer :=
  match p.file file with
  | .ok text => (.ok text, p)
  | .error e => (.error e, { p with level := p.level + e.openClasses })

end Printer

/-- The text of a file with two spaces for each level. -/
def Script.text (file : Script) : Except LayoutError String :=
  ({} : Printer).file file

end MoveBindings.TypeScript
