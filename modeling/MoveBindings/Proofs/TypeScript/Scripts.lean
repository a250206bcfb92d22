import MoveBindings.TypeScript.Syntax

/-!
# What a file imports, exports and declares

The imports, exports and type aliases of a file are found piece by piece: those
of two lists of nodes, one after the other, are the ones of both.
-/

namespace MoveBindings.TypeScript.Script

@[simp] theorem imports_append (first second : List Node) :
    imports ⟨first ++ second⟩ = imports ⟨first⟩ ++ imports ⟨second⟩ := by
  simp [imports]

@[simp] theorem exports_append (first second : List Node) :
    exports ⟨first ++ second⟩ = exports ⟨first⟩ ++ exports ⟨second⟩ := by
  simp [exports]

@[simp] theorem imports_nil : imports ⟨[]⟩ = [] := rfl

@[simp] theorem exports_nil : exports ⟨[]⟩ = [] := rfl

@[simp] theorem imports_importFrom (link : Link) (rest : List Node) :
    imports ⟨.importFrom link :: rest⟩ = link :: imports ⟨rest⟩ := rfl

@[simp] theorem exports_importFrom (link : Link) (rest : List Node) :
    exports ⟨.importFrom link :: rest⟩ = exports ⟨rest⟩ := rfl

@[simp] theorem imports_function (function : Function) (rest : List Node) :
    imports ⟨.function function :: rest⟩ = imports ⟨rest⟩ := rfl

@[simp] theorem exports_function (function : Function) (rest : List Node) :
    exports ⟨.function function :: rest⟩ = exports ⟨rest⟩ := rfl

@[simp] theorem imports_classDecl (head : ClassHead) (members rest : List Node) :
    imports ⟨.classDecl head members :: rest⟩ = imports ⟨rest⟩ := rfl

@[simp] theorem exports_classDecl (head : ClassHead) (members rest : List Node) :
    exports ⟨.classDecl head members :: rest⟩ = exports ⟨rest⟩ := rfl

@[simp] theorem imports_map_importFrom (links : List Link) :
    imports ⟨links.map .importFrom⟩ = links := by
  induction links with
  | nil => rfl
  | cons link rest ih => rw [List.map_cons, imports_importFrom, ih]

@[simp] theorem exports_map_importFrom (links : List Link) :
    exports ⟨links.map .importFrom⟩ = [] := by
  induction links with
  | nil => rfl
  | cons link rest ih => rw [List.map_cons, exports_importFrom, ih]

@[simp] theorem imports_map_exportFrom (links : List Link) :
    imports ⟨links.map .exportFrom⟩ = [] := by
  induction links with
  | nil => rfl
  | cons link rest ih => exact ih

@[simp] theorem exports_map_exportFrom (links : List Link) :
    exports ⟨links.map .exportFrom⟩ = links := by
  induction links with
  | nil => rfl
  | cons link rest ih => exact congrArg (link :: ·) ih

@[simp] theorem imports_map_typeAlias (aliases : List TypeAlias) :
    imports ⟨aliases.map .typeAlias⟩ = [] := by
  induction aliases with
  | nil => rfl
  | cons declared rest ih => exact ih

@[simp] theorem exports_map_typeAlias (aliases : List TypeAlias) :
    exports ⟨aliases.map .typeAlias⟩ = [] := by
  induction aliases with
  | nil => rfl
  | cons declared rest ih => exact ih

@[simp] theorem typeAliases_append (first second : List Node) :
    typeAliases ⟨first ++ second⟩ = typeAliases ⟨first⟩ ++ typeAliases ⟨second⟩ := by
  simp [typeAliases]

@[simp] theorem typeAliases_map_importFrom (links : List Link) :
    typeAliases ⟨links.map .importFrom⟩ = [] := by
  induction links with
  | nil => rfl
  | cons link rest ih => exact ih

@[simp] theorem typeAliases_map_typeAlias (aliases : List TypeAlias) :
    typeAliases ⟨aliases.map .typeAlias⟩ = aliases := by
  induction aliases with
  | nil => rfl
  | cons declared rest ih => exact congrArg (declared :: ·) ih

end MoveBindings.TypeScript.Script
