import MoveBindings.Emission.ProjectFiles
import MoveBindings.Proofs.Emission.Aliases

/-!
# What generation knows about modules

Generation uses the list of known modules only to look modules up. Two lists in
which every module has the same package, in whatever order, give the same alias
files and the same classes, with the same findings on the way.
-/

namespace MoveBindings

open TypeScript

namespace Environment

/-- The same environment with the given modules as the known ones. -/
def knowing (env : Environment) (modules : ModuleMap) : Environment :=
  { env with known := some modules }

variable {env : Environment} {first second : ModuleMap}

theorem layOut_knowing (env : Environment) (modules : ModuleMap) :
    (env.knowing modules).layOut = env.layOut := rfl

section

variable (same : ∀ id, first.find? id = second.find? id)
include same

theorem typeName_congr (tag : Tag) : typeName first tag = typeName second tag := by
  fun_induction typeName first tag with
  | case1 name => rfl
  | case2 element ih => rw [typeName, ih]
  | case3 name params known =>
    rw [typeName, Dictionary.contains, ← same]
    exact (if_pos known).symm
  | case4 name params unknown =>
    rw [typeName, Dictionary.contains, ← same]
    exact (if_neg unknown).symm
  | case5 => rfl

theorem modulesUsed_congr (tag : Tag) : modulesUsed first tag = modulesUsed second tag := by
  fun_induction modulesUsed first tag with
  | case1 element ih => rw [modulesUsed, ih]
  | case2 name params known =>
    rw [modulesUsed, Dictionary.contains, ← same]
    exact (if_pos known).symm
  | case3 name params unknown =>
    rw [modulesUsed, Dictionary.contains, ← same]
    exact (if_neg unknown).symm
  | case4 other noVector noStruct => rw [modulesUsed] <;> assumption

theorem bindingsPath_congr :
    (env.knowing first).bindingsPath = (env.knowing second).bindingsPath := by
  funext id
  simp only [bindingsPath, knowing, same]

theorem bindingsLink_congr (file : String) (id : ModuleId) (boundName : Option String) :
    (env.knowing first).bindingsLink file id boundName =
      (env.knowing second).bindingsLink file id boundName := by
  rw [bindingsLink, bindingsLink, bindingsPath_congr same]

theorem classStem_congr : (env.knowing first).classStem = (env.knowing second).classStem := by
  funext name
  rw [classStem, classStem, bindingsPath_congr same]

theorem aliasType_congr : (env.knowing first).aliasType = (env.knowing second).aliasType := by
  funext field tag location
  have type :
      typeName (env.knowing first).modules tag = typeName (env.knowing second).modules tag :=
    typeName_congr same tag
  rw [aliasType, aliasType, type]

theorem fieldAlias_congr : (env.knowing first).fieldAlias = (env.knowing second).fieldAlias := by
  funext path taken field
  rw [fieldAlias, fieldAlias, aliasType_congr same]
  rfl

theorem fieldAliases_congr (path : String) (taken : List String) (fields : List ContainerField) :
    (env.knowing first).fieldAliases path taken fields =
      (env.knowing second).fieldAliases path taken fields := by
  induction fields generalizing taken with
  | nil => rfl
  | cons field rest ih => simp only [fieldAliases, fieldAlias_congr same, ih]

theorem aliasSource_congr : (env.knowing first).aliasSource = (env.knowing second).aliasSource := by
  funext path fields
  have classes : (env.knowing first).classLinks path fields =
      (env.knowing second).classLinks path fields := by
    rw [classLinks, classLinks, classStem_congr same]
  have modules : (env.knowing first).modulesOf = (env.knowing second).modulesOf := by
    funext tags
    have used :
        modulesUsed (env.knowing first).modules = modulesUsed (env.knowing second).modules :=
      funext (modulesUsed_congr same)
    rw [modulesOf, modulesOf, used]
  simp only [aliasSource, fieldAliases_congr same, classes, modules, bindingsLink_congr same]
  rfl

/-- The alias files of a package depend on where modules are found. -/
theorem packageAliases_congr :
    (env.knowing first).packageAliases = (env.knowing second).packageAliases := by
  have aliases : (env.knowing first).moduleAliases = (env.knowing second).moduleAliases := by
    funext package module
    have file : (env.knowing first).aliasFile = (env.knowing second).aliasFile := by
      funext package module fields
      rw [aliasFile, aliasFile, aliasSource_congr same]
    rw [moduleAliases, moduleAliases, file]
    rfl
  funext package
  rw [packageAliases, packageAliases, aliases]

theorem containerClass_congr :
    (env.knowing first).containerClass = (env.knowing second).containerClass := by
  funext container
  have path : (env.knowing first).classFilePath = (env.knowing second).classFilePath := by
    funext name
    rw [classFilePath, classFilePath, classStem_congr same]
  have source : (env.knowing first).classSource = (env.knowing second).classSource := by
    funext container path name
    simp only [classSource, bindingsLink_congr same]
    rfl
  rw [containerClass, containerClass, path, source]
  rfl

end

/-- The class of a container depends on where modules are found and on which packages there are. -/
theorem classFile_congr (env : Environment) (same : ∀ id, first.find? id = second.find? id)
    {packages others : List String} (members : ∀ name, name ∈ packages ↔ name ∈ others) :
    (env.knowing first).classFile packages = (env.knowing second).classFile others := by
  funext container
  rw [classFile, classFile, containerClass_congr same]
  simp only [members]
  rfl

end Environment

end MoveBindings
