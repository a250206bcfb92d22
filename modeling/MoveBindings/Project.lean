import MoveBindings.Declaration.Manifest
import MoveBindings.Emission.ProjectFiles
import MoveBindings.NpmPackage

/-!
# Projects

A project collects declarations and is then generated in one run. What is
declared and what is found accumulates: a failure takes nothing back. The
generated code lies under one directory, beside the files that make the project
a package of its own if it is to be one.
-/

namespace MoveBindings

/-- Where a project is written, and whether it is a package of its own. -/
structure ProjectOptions where
  outputDir : Path := Path.ofString "./ts-output"
  name : Option String := some "move-bindings"
  isPackage : Bool := true

namespace ProjectOptions

/-- The directory of generated code. -/
def sourceRoot (options : ProjectOptions) : Path :=
  if options.isPackage then options.outputDir.join ⟨"", ["src"]⟩ else options.outputDir

/-- A file at its place under a directory. -/
def placed (root : Path) (file : OutputFile) : String × String :=
  ((root.join (Path.ofString file.path)).text, file.content)

/-- The files to be written, with their paths. Of two files at one path the last is written, at the
place of the first. -/
def outputs (options : ProjectOptions) (files : List OutputFile) : Dictionary String String :=
  Dictionary.ofList
    (files.map (placed options.sourceRoot) ++
      if options.isPackage then (NpmPackage.files options.name).map (placed options.outputDir)
      else [])

end ProjectOptions

/-- A project: what is declared so far, and what was found so far. -/
structure Project where
  options : ProjectOptions := {}
  settings : Settings := {}
  catalog : Catalog := {}
  log : Log := {}

namespace Project

/-- Declares the packages of a manifest. -/
def addManifest (p : Project) (manifest : Json) : Except Failure Unit × Project :=
  let (outcome, catalog) := p.catalog.addManifest manifest
  (outcome, { p with catalog })

/-- Declares the packages of a manifest given as the text of a file. -/
def addManifestText (p : Project) (path text : String) : Except Failure Unit × Project :=
  let (outcome, catalog) := p.catalog.addManifestText path text
  (outcome, { p with catalog })

/-- Declares a package. -/
def add (p : Project) (package : Package) : Except Failure Project := do
  return { p with catalog := ← p.catalog.add package }

/-- What the generation of a project depends on. -/
def environment (p : Project) : Environment := .ofCatalog p.settings p.catalog

/-- The generated files of a project, with paths from the source root. -/
def generate (p : Project) : Except Failure (List OutputFile) × Project :=
  let (outcome, log) := (p.environment.projectFiles p.catalog).record p.log
  (outcome, { p with log })

/-- All files of a project with the paths at which they are written. -/
def outputs (p : Project) : Except Failure (Dictionary String String) × Project :=
  let (outcome, generated) := p.generate
  (outcome.map p.options.outputs, generated)

end Project

end MoveBindings
