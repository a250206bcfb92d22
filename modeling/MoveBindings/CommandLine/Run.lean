import MoveBindings.CommandLine.Usage
import MoveBindings.FileTree
import MoveBindings.Project
import MoveBindings.Settings.Reader

/-!
# Runs of the command

A run reads the settings and the manifest, generates the project, and then
writes its files or prints them. Nothing is written unless all of it could be
generated. Faults of the project are reported with exit code 1; a path that
cannot be used and data of the wrong kind break the run off.
-/

namespace MoveBindings.CommandLine

/-- What breaks a run off. -/
inductive Abort where
  | noOutputDirectory
  | failure (failure : Failure)
  | access (error : AccessError)
deriving DecidableEq, Repr

/-- Why a run has no files: a fault that is reported, or something that breaks it off. -/
inductive NoFiles where
  | reported (message : String)
  | aborted (abort : Abort)
deriving DecidableEq, Repr

/-- What comes out of generation: warnings about the settings, the files with their paths, and the
diagnostics. -/
structure Generation where
  warnings : List SettingsWarning := []
  outcome : Except NoFiles (Dictionary String String)
  log : Log := {}

/-- What a failure means for a run. -/
def ofFailure (failure : Failure) : NoFiles :=
  if failure.isReported then .reported failure.message else .aborted (.failure failure)

/-- What a file that cannot be read means for a run, if it has to be there. -/
def ofUnreadable (path : String) : AccessError → NoFiles
  | .missing => .reported ("[Errno 2] No such file or directory: " ++ Text.quote path)
  | error => .aborted (.access error)

namespace Invocation

/-- The path of the settings, if they are to be read. -/
def configPath (i : Invocation) : Option String := i.config.filter (· ≠ "")

/-- How the project is written to a directory. -/
def projectOptions (i : Invocation) (directory : String) : ProjectOptions :=
  { outputDir := Path.ofString directory, name := i.name, isPackage := !i.noScaffold }

/-- The settings by the result of reading their file. A missing file replaces nothing. -/
def overrides (i : Invocation) (config : Except AccessError String) :
    Except NoFiles (Overrides × List SettingsWarning) :=
  match i.configPath, config with
  | none, _ => .ok ({}, [])
  | some path, .ok text => .ok (Overrides.ofText path (some text))
  | some path, .error .missing => .ok (Overrides.ofText path none)
  | some _, .error error => .error (.aborted (.access error))

/-- The files of a project by its settings and the result of reading its manifest. -/
def outputs (i : Invocation) (options : ProjectOptions) (settings : Settings)
    (manifest : Except AccessError String) :
    Except NoFiles (Dictionary String String) × Log :=
  let project : Project := { options, settings, log := { verbose := i.verbose } }
  match manifest with
  | .error error => (.error (ofUnreadable i.manifest error), project.log)
  | .ok text =>
    match project.addManifestText i.manifest text with
    | (.error failure, project) => (.error (ofFailure failure), project.log)
    | (.ok (), project) =>
      let (outcome, project) := project.outputs
      (outcome.mapError ofFailure, project.log)

/-- Generates a project by the results of reading the settings and the manifest. Without an output
directory nothing is done. -/
def generate (i : Invocation) (config manifest : Except AccessError String) : Generation :=
  match i.output, i.overrides config with
  | none, _ => { outcome := .error (.aborted .noOutputDirectory) }
  | some _, .error reason => { outcome := .error reason }
  | some directory, .ok (overrides, warnings) =>
    let (outcome, log) :=
      i.outputs (i.projectOptions directory) (overrides.apply {}) manifest
    { warnings, outcome, log }

end Invocation

/-- Files as sections of one text. -/
def sections (files : Dictionary String String) : String :=
  String.join (files.entries.map fun (path, content) =>
    "// ===== " ++ path ++ " =====\n" ++ content ++ "\n")

/-- The line about a written file. -/
def writtenLine (path : String) : String := "Written: " ++ path ++ "\n"

/-- What a run prints and leaves behind, and its exit code if it comes to its end. -/
structure Transcript where
  stdout : String := ""
  stderr : String := ""
  exit : Except Abort Nat := .ok 0
  tree : FileTree

/-- Writes files in order. A file that cannot be written ends the run, and those before it stay. -/
def writeFiles (tree : FileTree) : List (String × String) → Transcript
  | [] => { tree }
  | (path, content) :: rest =>
    match tree.write path content with
    | .error error => { exit := .error (.access error), tree }
    | .ok tree =>
      let later := writeFiles tree rest
      { later with stdout := writtenLine path ++ later.stdout }

/-- Prints or writes generated files. -/
def deliver (i : Invocation) (tree : FileTree) (files : Dictionary String String) : Transcript :=
  if i.stdout then { stdout := sections files, tree } else writeFiles tree files.entries

/-- A run that has come to its end is followed by the report of its diagnostics. -/
def Transcript.withReport (t : Transcript) (log : Log) : Transcript :=
  match t.exit with
  | .ok _ => { t with stderr := t.stderr ++ log.report }
  | .error _ => t

/-- What is printed about the settings. -/
def warningText (warnings : List SettingsWarning) : String :=
  ofLines (warnings.map SettingsWarning.message)

/-- A run of an invocation in a file tree. -/
def Invocation.run (i : Invocation) (tree : FileTree) : Transcript :=
  let config := tree.read (i.configPath.getD "")
  let generation := i.generate config (tree.read i.manifest)
  let printed := warningText generation.warnings
  match generation.outcome with
  | .error (.reported message) =>
    { stdout := printed, stderr := "Error: " ++ message ++ "\n", exit := .ok 1, tree }
  | .error (.aborted abort) => { stdout := printed, exit := .error abort, tree }
  | .ok files =>
    let t := (deliver i tree files).withReport generation.log
    { t with stdout := printed ++ t.stdout }

/-- A run of the command in a file tree. -/
def run (arguments : List String) (tree : FileTree) : Transcript :=
  match parse arguments with
  | .error .help => { stdout := help, tree }
  | .error (.usage error) => { stderr := error.report, exit := .ok 2, tree }
  | .ok invocation => invocation.run tree

end MoveBindings.CommandLine
