import MoveBindings.Container
import MoveBindings.Emission.Environment

/-!
# Container fields of a module

The settings say which types are containers. The container fields of a module
are found in the order of its structs and of their fields. A field whose type
has a container's name but not its shape is a failure.
-/

namespace MoveBindings.Environment

/-- A field as one of a container. -/
def containerField (env : Environment) (container : Container) (field : Field) (owner : String)
    (module : Option ModuleId := none) : Except Failure ContainerField :=
  match ContainerField.ofField container field (container.configuredName env.settings) owner
    module with
  | .ok found => .ok found
  | .error mismatch => .error (.shape mismatch)

/-- A field as one of each container whose name its type has. -/
def asContainerFields (env : Environment) (module : ModuleId) (struct : String) (field : Field) :
    Except Failure (List ContainerField) :=
  (Container.all.filter fun container => container.claims env.settings field).mapM
    fun container => env.containerField container field struct (some module)

/-- The container fields of a struct. -/
def structContainerFields (env : Environment) (module : ModuleId) (struct : Struct) :
    Except Failure (List ContainerField) := do
  return (← struct.fields.mapM (env.asContainerFields module struct.name)).flatten

/-- The container fields of a module. -/
def moduleContainerFields (env : Environment) (module : Module) :
    Except Failure (List ContainerField) := do
  return (← module.structs.mapM (env.structContainerFields module.id)).flatten

end MoveBindings.Environment
