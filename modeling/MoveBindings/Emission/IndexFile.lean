import MoveBindings.Emission.Links

/-!
# Index files

The index of a package imports and exports every module of the package, and
every generated file that goes with one of them, and loads the parsers of the
modules. The index of the project does the same for packages. Children keep
their order, and none may occur twice.
-/

namespace MoveBindings

open TypeScript

/-- A child of an index: the name it is bound to and the source it comes from. -/
structure Child where
  boundName : String
  source : String
deriving DecidableEq, Repr

/-- What binds a child to its name. -/
def Child.link (child : Child) : Link := ⟨child.source, .of [] (some child.boundName)⟩

namespace IndexFile

/-- The class of parser collections. -/
def parserRepo : String := "AptosParserRepo"

/-- The first name that has occurred before. -/
def firstRepeated? : (seen names : List String) → Option String
  | _, [] => none
  | seen, name :: rest =>
    if name ∈ seen then some name else firstRepeated? (name :: seen) rest

/-- Refuses names of which one occurs twice. -/
def distinct (kind parent : String) (names : List String) : Except Failure Unit :=
  match firstRepeated? [] names with
  | some name => .error (.duplicate ⟨kind, name, parent⟩)
  | none => .ok ()

/-- The statement that loads a child's parsers. -/
def loadStatement (child : Child) : Statement := .line (child.boundName ++ ".loadParsers(repo);")

/-- The statement that makes a collection of parsers. -/
def newRepo : Statement := .line ("const repo = new " ++ parserRepo ++ "();")

/-- The statements that complete a collection of parsers and return it. -/
def finishRepo : List Statement :=
  [.line "repo.addDefaultParsers();", .line "return repo;"]

/-- The path of a package's index. -/
def packagePath (package : String) : String := package ++ "/index.ts"

/-- The path of the project's index. -/
def projectPath : String := "index.ts"

end IndexFile

namespace Environment

open IndexFile

/-- The imports and exports of children. -/
def childLinks (env : Environment) (children : List Child) : List Node :=
  let links := children.map Child.link
  .importFrom ⟨env.settings.runtimeModule, .names [parserRepo]⟩ ::
    links.map .importFrom ++ links.map .exportFrom

/-- A child whose alias is a module's. -/
def moduleChild (env : Environment) (location name : String) : Emission Child := do
  return ⟨← env.safeNamespace name location, "./" ++ name⟩

/-- A child that goes with a module: its file name continues the module's after a dot, and its
alias continues the module's identifier after a dollar sign. -/
def companionChild (env : Environment) (location stem : String) : Emission Child := do
  let (module, kind) := Text.cutAt '.' stem.toList
  let identifier ← env.identifier (String.ofList module) location
  return ⟨identifier ++ "$" ++ String.ofList kind, "./" ++ stem⟩

/-- A child whose alias is a package's. -/
def packageChild (env : Environment) (name : String) : Emission Child := do
  return ⟨← env.identifier name projectPath, "./" ++ name⟩

/-- The index of a package with its modules and the files that go with them. -/
def packageIndex (env : Environment) (package : String) (modules : List ModuleId)
    (companions : List String) : Emission Script := do
  let location := packagePath package
  let names := modules.map ModuleId.name
  Emission.ofExcept (distinct "module" package names)
  let children ← names.mapM (env.moduleChild location)
  Emission.ofExcept (distinct "file" package companions)
  let others ← companions.mapM (env.companionChild location)
  let loadParsers : Function :=
    { signature := { name := "loadParsers", params := [⟨"repo", parserRepo, ""⟩] }
      body := children.map loadStatement }
  let getPackageRepo : Function :=
    { signature := { name := "getPackageRepo", returnType := parserRepo }
      body := [newRepo, .line "loadParsers(repo);"] ++ finishRepo }
  return ⟨env.childLinks (children ++ others) ++ [.function loadParsers, .function getPackageRepo]⟩

/-- The index of the project with its packages. -/
def projectIndex (env : Environment) (packages : List String) : Emission Script := do
  Emission.ofExcept (distinct "package" "" packages)
  let children ← packages.mapM env.packageChild
  let getProjectRepo : Function :=
    { signature := { name := "getProjectRepo", returnType := parserRepo }
      body := newRepo :: children.map loadStatement ++ finishRepo }
  return ⟨env.childLinks children ++ [.function getProjectRepo]⟩

end Environment

end MoveBindings
