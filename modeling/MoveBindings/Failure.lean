import MoveBindings.Json.Reader
import MoveBindings.Tag.QualifiedName
import MoveBindings.TypeScript.Layout

/-!
# Failures

Generation stops at the first failure. A failure keeps its cause; the wording
is in one function for each kind of cause.
-/

namespace MoveBindings

/-- A field whose type does not have the shape of a container. The actual name is there for
struct types only, the actual number of parameters only where the name is right. -/
structure ShapeMismatch where
  fieldName : String
  expectedName : String
  actualName : Option String := none
  expectedParams : Int := 2
  actualParams : Option Int := none
  declaredIn : String := ""
deriving DecidableEq, Repr

namespace ShapeMismatch

/-- Which check failed: the kind of type, the name or the number of parameters. -/
def detail (e : ShapeMismatch) : String :=
  match e.actualName with
  | none => "expected a struct type " ++ e.expectedName ++ ", got a non-struct type"
  | some actual =>
    if actual ≠ e.expectedName then "expected " ++ e.expectedName ++ ", got " ++ actual
    else
      e.expectedName ++ " requires " ++ toString e.expectedParams ++ " type parameters, got " ++
        (match e.actualParams with
          | some count => toString count
          | none => "None")

/-- The report of a mismatch. -/
def message (e : ShapeMismatch) : String :=
  "Field \"" ++ e.fieldName ++ "\"" ++
    (if e.declaredIn = "" then "" else " of " ++ e.declaredIn) ++ ": " ++ e.detail

end ShapeMismatch

/-- Something that occurs twice where it may occur once. -/
structure Duplicate where
  kind : String
  name : String
  parent : String := ""
deriving DecidableEq, Repr

/-- The report of a duplicate. -/
def Duplicate.message (e : Duplicate) : String :=
  "Duplicate " ++ e.kind ++ " \"" ++ e.name ++ "\"" ++
    (if e.parent = "" then "" else " in " ++ e.parent)

/-- A part of a manifest, named by what encloses it. -/
inductive ManifestPart where
  | package
  | module (package : String)
  | struct (module : ModuleId)
  | field (module : ModuleId) (struct : String)
deriving DecidableEq, Repr

/-- A part of a manifest as errors name it. -/
def ManifestPart.text : ManifestPart → String
  | .package => "package"
  | .module owner => "module in package \"" ++ owner ++ "\""
  | .struct owner => "struct in " ++ owner.text
  | .field owner name => "field of " ++ owner.text ++ "::" ++ name

/-- What can be wrong with a manifest. -/
inductive ManifestFault where
  | noPackages
  | missing (key : String) (part : ManifestPart)
  | declaredTwice (package : String)
  | unreadable (path : String) (error : Json.SyntaxError)
deriving DecidableEq, Repr

/-- The report of an error in a manifest. -/
def ManifestFault.message : ManifestFault → String
  | .noPackages => "Manifest must contain a \"packages\" list"
  | .missing key part => "Missing \"" ++ key ++ "\" for " ++ part.text
  | .declaredTwice package => "Package \"" ++ package ++ "\" is declared twice"
  | .unreadable path error => "Failed to parse manifest " ++ path ++ ": " ++ error.message

/-- Why generation stopped. -/
inductive Failure where
  | tag (error : Tag.SyntaxError)
  | shape (error : ShapeMismatch)
  | duplicate (error : Duplicate)
  | manifest (error : ManifestFault)
  | notAList
  | unknownType
  | noModuleList
  | layout (error : TypeScript.LayoutError)
deriving DecidableEq, Repr

namespace Failure

/-- The report of a failure. -/
def message : Failure → String
  | .tag error => error.message
  | .shape error => error.message
  | .duplicate error => error.message
  | .manifest error => error.message
  | .notAList => "a part of the manifest is not a list"
  | .unknownType => "a type without a text form"
  | .noModuleList => "there is no list of known modules"
  | .layout error => error.message

/-- Whether a failure is a fault of the project that is reported to the user. The others come from
data of the wrong kind. -/
def isReported : Failure → Bool
  | .tag _ | .shape _ | .duplicate _ | .manifest _ => true
  | .notAList | .unknownType | .noModuleList | .layout _ => false

end Failure

end MoveBindings
