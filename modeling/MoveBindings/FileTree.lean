import MoveBindings.Dictionary
import MoveBindings.Path.Basic
import MoveBindings.Text.Ordering

/-!
# File trees

A file tree is what can be reached from a working directory: directories, and
files with their text. Paths are followed component by component, and every
component but the last has to lead to a directory. A double dot leads to the
directory above, also above the working directory, where nothing but the
directories themselves is known.
-/

namespace MoveBindings

/-- Why a path cannot be used. -/
inductive AccessError where
  | missing
  | isDirectory
  | notDirectory
  | alreadyExists
  | nameTooLong
  | nullCharacter
deriving DecidableEq, Repr

/-- A place in a file tree: the components that lead there from the working directory. Only the
first of them may be double dots, or a slash for the root. -/
abbrev Location := List String

/-- Directories and files below a working directory. -/
structure FileTree where
  directories : List Location := []
  files : Dictionary Location String := .empty

namespace FileTree

/-- The component that stands for the root. -/
def rootComponent : String := "/"

/-- The directory above a place. -/
def above (place : Location) : Location :=
  if place = [rootComponent] then place
  else if place.all (· == "..") then place ++ [".."]
  else place.dropLast

/-- Whether a place is a directory. The working directory is one, and so is everything above. -/
def isDirectory (tree : FileTree) (place : Location) : Bool :=
  place.all (· == "..") || place == [rootComponent] || tree.directories.contains place

/-- Whether a place is a file. -/
def isFile (tree : FileTree) (place : Location) : Bool := tree.files.contains place

/-- The longest name of a file, in bytes. -/
def longestName : Nat := 255

/-- The longest path, in bytes. -/
def longestPath : Nat := 4095

/-- Follows components from a place. -/
def follow (tree : FileTree) (place : Location) : List String → Except AccessError Location
  | [] => .ok place
  | name :: rest =>
    if tree.isDirectory place then
      if name = "" ∨ name = "." then tree.follow place rest
      else if name = ".." then tree.follow (above place) rest
      else if longestName < name.utf8ByteSize then .error .nameTooLong
      else tree.follow (place ++ [name]) rest
    else if tree.isFile place then .error .notDirectory
    else .error .missing

/-- The place that a path leads to. There need not be anything there. -/
def locate (tree : FileTree) (path : String) : Except AccessError Location :=
  if path.toList.contains '\x00' then .error .nullCharacter
  else if path = "" then .error .missing
  else if longestPath < path.utf8ByteSize then .error .nameTooLong
  else
    let start := if path.toList.head? = some '/' then [rootComponent] else []
    tree.follow start ((Text.splitOn '/' path.toList).map String.ofList)

/-- The text of the file at a path. -/
def read (tree : FileTree) (path : String) : Except AccessError String := do
  let place ← tree.locate path
  if tree.isDirectory place then throw .isDirectory
  else match tree.files.find? place with
    | some text => return text
    | none => throw .missing

/-- Makes a directory in a directory that exists. -/
def makeDirectory (tree : FileTree) (path : Path) : Except AccessError FileTree := do
  let place ← tree.locate path.text
  if tree.isDirectory place || tree.isFile place then throw .alreadyExists
  else return { tree with directories := place :: tree.directories }

/-- Whether a path leads to a directory. -/
def leadsToDirectory (tree : FileTree) (path : Path) : Bool :=
  match tree.locate path.text with
  | .ok place => tree.isDirectory place
  | .error _ => false

/-- Makes a directory unless it exists. -/
def ensureDirectory (tree : FileTree) (path : Path) : Except AccessError FileTree :=
  match tree.makeDirectory path with
  | .ok tree => .ok tree
  | .error error =>
    if error ≠ .missing ∧ tree.leadsToDirectory path then .ok tree else .error error

/-- Makes a directory and the directories on the way to it, as far as they are missing. -/
def ensureDirectories (tree : FileTree) (path : Path) : Except AccessError FileTree :=
  match tree.ensureDirectory path with
  | .ok tree => .ok tree
  | .error error =>
    if _h : error = .missing ∧ path.components ≠ [] then do
      let tree ← tree.ensureDirectories path.parent
      tree.ensureDirectory path
    else .error error
termination_by path.components.length
decreasing_by
  have nonempty : 0 < path.components.length := List.length_pos_iff.mpr _h.2
  simp only [Path.parent, List.length_dropLast]
  omega

/-- Writes a file, and makes the directories on the way to it. -/
def write (tree : FileTree) (path content : String) : Except AccessError FileTree := do
  let target := Path.ofString path
  let tree ← tree.ensureDirectories target.parent
  let place ← tree.locate target.text
  if tree.isDirectory place then throw .isDirectory
  else return { tree with files := tree.files.insert place content }

/-- The tree of files with their paths; what cannot be written is left out. -/
def ofFiles (files : List (String × String)) : FileTree :=
  files.foldl (fun tree file => (tree.write file.1 file.2).toOption.getD tree) {}

/-- Whether a place is reached from the working directory, and not from the root. -/
def isRelative (place : Location) : Bool := place.head? ≠ some rootComponent

/-- The files that a tree has and another one has not, or with another text, in ascending order of
their paths from the working directory. -/
def changes (before after : FileTree) : List (String × String) :=
  let changed := after.files.entries.filter fun (place, text) =>
    isRelative place && before.files.find? place != some text
  sortedSet (fun a b => Text.less a.1 b.1)
    (changed.map fun (place, text) => ("/".intercalate place, text))

end FileTree

end MoveBindings
