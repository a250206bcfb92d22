/-!
# Syntax of generated TypeScript files

A file is a list of nodes: imports, exports, type aliases, functions and
classes. Class members are nodes of their own kinds. Statements are kept as
text, except that braces nest through blocks. Which nodes may stand where is
checked when a file is laid out.
-/

namespace MoveBindings.TypeScript

/-- A statement: a line of text, or a header with a braced body. The footer follows the closing
brace. -/
inductive Statement where
  | line (text : String)
  | block (header : String) (body : List Statement) (footer : String)
deriving Inhabited

/-- What an import or export binds: listed names, or the whole module under one name. -/
inductive Binding where
  | names (names : List String)
  | whole (boundName : String)
deriving DecidableEq, Repr

/-- The binding for a list of names and a name for the whole module. The latter wins; an empty one
is none. -/
def Binding.of (names : List String) (boundName : Option String) : Binding :=
  match boundName with
  | some "" => .names names
  | some name => .whole name
  | none => .names names

/-- An import or export of names from a source file or library. -/
structure Link where
  source : String
  binding : Binding
deriving DecidableEq, Repr

/-- A parameter, perhaps with a type and with a modifier such as `public`. -/
structure Parameter where
  name : String
  type : String := ""
  modifier : String := ""
deriving DecidableEq, Repr

/-- A type alias. -/
structure TypeAlias where
  name : String
  value : String
  exported : Bool := true
deriving DecidableEq, Repr

/-- What functions and methods have in common: an empty return type is not written. -/
structure Signature where
  name : String
  typeParams : List String := []
  params : List Parameter := []
  returnType : String := ""
  isAsync : Bool := false
deriving DecidableEq, Repr

/-- A function of a file. -/
structure Function where
  signature : Signature
  body : List Statement := []
  exported : Bool := true

/-- A property of a class, without a value. -/
structure Property where
  name : String
  type : String
deriving DecidableEq, Repr

/-- The constructor of a class. -/
structure Constructor where
  params : List Parameter := []
  body : List Statement := []

/-- A method of a class. -/
structure Method where
  signature : Signature
  body : List Statement := []
  isStatic : Bool := false

/-- The head of a class declaration. -/
structure ClassHead where
  name : String
  typeParams : List String := []
  exported : Bool := true
deriving DecidableEq, Repr

/-- A node of a file or of a class. -/
inductive Node where
  | importFrom (link : Link)
  | exportFrom (link : Link)
  | typeAlias (declared : TypeAlias)
  | function (function : Function)
  | classDecl (head : ClassHead) (members : List Node)
  | property (property : Property)
  | constructor (constructor : Constructor)
  | method (method : Method)
  | statement (statement : Statement)
deriving Inhabited

/-- A file as the list of its nodes. -/
structure Script where
  nodes : List Node

namespace Script

/-- The imports of a file, in order. -/
def imports (file : Script) : List Link :=
  file.nodes.filterMap fun
    | .importFrom link => some link
    | _ => none

/-- The exports of a file, in order. -/
def exports (file : Script) : List Link :=
  file.nodes.filterMap fun
    | .exportFrom link => some link
    | _ => none

/-- The type aliases of a file, in order. -/
def typeAliases (file : Script) : List TypeAlias :=
  file.nodes.filterMap fun
    | .typeAlias declared => some declared
    | _ => none

/-- The first function of a name. -/
def function? (file : Script) (name : String) : Option Function :=
  file.nodes.findSome? fun
    | .function function => if function.signature.name = name then some function else none
    | _ => none

/-- The first class of a name, with its members. -/
def class? (file : Script) (name : String) : Option (ClassHead × List Node) :=
  file.nodes.findSome? fun
    | .classDecl head members => if head.name = name then some (head, members) else none
    | _ => none

end Script

end MoveBindings.TypeScript
