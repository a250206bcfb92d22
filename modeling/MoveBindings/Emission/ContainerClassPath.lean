import MoveBindings.Emission.Environment

/-!
# Paths of container classes

The class of a container lies beside the bindings of the module that declares
the container.
-/

namespace MoveBindings.Environment

/-- The address, module and name of a container's type. -/
def containerName (name : String) : Except Failure QualifiedName :=
  match QualifiedName.read name with
  | .ok q => .ok q
  | .error error => .error (.tag error)

/-- The path of the class for a container type, without the extension `.ts`. -/
def classStem (env : Environment) (qualifiedName : String) : Except Failure String := do
  let name ← containerName qualifiedName
  return (← env.bindingsPath name.moduleId) ++ ".accessors"

/-- The path of the class for a container type. -/
def classFilePath (env : Environment) (qualifiedName : String) : Except Failure String := do
  return (← env.classStem qualifiedName) ++ ".ts"

end MoveBindings.Environment
