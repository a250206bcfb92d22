import MoveBindings.Emission.Basic
import MoveBindings.Settings.Basic
import MoveBindings.TypeScript.TypeName

/-!
# The environment of generation

Everything that generation depends on besides the declarations: the settings,
the indentation, and the modules that the project knows with their packages.
Without a list of known modules no module is known, and none has a path.
-/

namespace MoveBindings

/-- What generation depends on. -/
structure Environment where
  settings : Settings := {}
  indent : String := "  "
  known : Option ModuleMap := some .empty

/-- A file of the output: its path from the output root, and its text. -/
structure OutputFile where
  path : String
  content : String
deriving DecidableEq, Repr

namespace Environment

/-- The identifier for a name. A renaming is noted at the given place. -/
def identifier (env : Environment) (name location : String) : Emission String :=
  let safe := env.settings.naming.identifier name
  if safe = name then pure name
  else do
    Emission.note ⟨.renamed name safe, location⟩
    return safe

/-- The alias for a module whose name is made an identifier first. -/
def safeNamespace (env : Environment) (module location : String) : Emission String := do
  return namespaceAlias (← env.identifier module location)

/-- The known modules with their packages. -/
def modules (env : Environment) : ModuleMap := env.known.getD .empty

/-- The path of a module's bindings, without extension. A module that is not in the list of known
modules is taken to belong to the standard package. -/
def bindingsPath (env : Environment) (id : ModuleId) : Except Failure String :=
  match env.known with
  | some known => .ok ((known.find? id).getD env.settings.stdPackage ++ "/" ++ id.name)
  | none => .error .noModuleList

/-- A file of the output by its path and syntax. -/
def layOut (env : Environment) (path : String) (source : TypeScript.Script) :
    Except Failure OutputFile :=
  match TypeScript.Printer.file ⟨env.indent, 0⟩ source with
  | .ok content => .ok ⟨path, content⟩
  | .error error => .error (.layout error)

/-- Whatever name it is, the identifier is the one that the naming rules give. -/
theorem outcome_identifier (env : Environment) (name location : String) :
    (env.identifier name location).outcome = .ok (env.settings.naming.identifier name) := by
  by_cases same : env.settings.naming.identifier name = name
  · simp [identifier, same, Emission.pure_def]
  · simp [identifier, same, Emission.bind_def, Emission.andThen, Emission.note, Emission.pure_def]

end Environment

end MoveBindings
