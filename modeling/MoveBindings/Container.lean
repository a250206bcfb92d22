import MoveBindings.Declaration.Basic
import MoveBindings.Failure
import MoveBindings.Settings.Basic

/-!
# Containers and their fields

Tables live on chain behind a handle, and generated code reads them entry by
entry. There are two containers: the plain table, and the iterable table, whose
entries also hold the key of the next one. A field belongs to a container when
its type has the container's name, and it must then have two type parameters,
for keys and for values.
-/

namespace MoveBindings

/-- The kinds of container. -/
inductive Container where
  | table
  | iterableTable
deriving DecidableEq, Repr

namespace Container

/-- The kinds of container in the order in which they are tried. -/
def all : List Container := [.table, .iterableTable]

/-- The class that gives access to a container. -/
def className : Container → String
  | .table => "TypedTable"
  | .iterableTable => "TypedIterableTable"

/-- The type of a container unless another name is given. -/
def standardName : Container → String
  | .table => "0x1::Table::Table"
  | .iterableTable => "0x1::IterableTable::IterableTable"

/-- The type of a container under the given settings. -/
def configuredName (settings : Settings) : Container → String
  | .table => settings.tableName
  | .iterableTable => settings.iterableTableName

/-- Whether a field's type has a container's name, whatever its parameters. -/
def claims (container : Container) (settings : Settings) (field : Field) : Bool :=
  match field.type with
  | .struct name _ => name.text == container.configuredName settings
  | _ => false

end Container

/-- The name of the structs that an iterable table stores. -/
def iterableValueName : String := "IterableValue"

/-- A field of a container type, with the types of its keys and values. -/
structure ContainerField where
  container : Container
  fieldName : String
  key : Tag
  value : Tag
  qualifiedName : String
  owner : String := ""

namespace ContainerField

/-- The struct that declares a field, as errors name it: module and struct as far as given. -/
def declaredIn (module : Option ModuleId) (owner : String) : String :=
  "::".intercalate ([module.elim "" ModuleId.text, owner].filter (· ≠ ""))

/-- The types of keys and values of a field with the expected type. -/
def keyAndValue (field : Field) (expected declaredIn : String) :
    Except ShapeMismatch (Tag × Tag) :=
  let mismatch : ShapeMismatch :=
    { fieldName := field.name, expectedName := expected, declaredIn }
  match field.type with
  | .struct name params =>
    if name.text ≠ expected then .error { mismatch with actualName := some name.text }
    else match params with
      | [key, value] => .ok (key, value)
      | _ =>
        .error
          { mismatch with actualName := some name.text, actualParams := some params.length }
  | _ => .error mismatch

/-- A field of a container type. An empty type name stands for the container's standard one; the
owner and the module only say in errors where the field is. -/
def ofField (container : Container) (field : Field) (qualifiedName : String := "")
    (owner : String := "") (module : Option ModuleId := none) :
    Except ShapeMismatch ContainerField := do
  let expected := if qualifiedName = "" then container.standardName else qualifiedName
  let (key, value) ← keyAndValue field expected (declaredIn module owner)
  return ⟨container, field.name, key, value, expected, owner⟩

/-- The type of what a lookup returns: the value itself, or for an iterable table the struct that
links the value to the next key. -/
def lookupValue (f : ContainerField) : Except Tag.SyntaxError Tag :=
  match f.container with
  | .table => .ok f.value
  | .iterableTable => do
    let container ← QualifiedName.read f.qualifiedName
    return .struct { container with name := iterableValueName } [f.key, f.value]

/-- A field has the expected type exactly when the type is a struct of that name with two
parameters, which are then the types of keys and values. -/
theorem keyAndValue_eq_ok_iff {field : Field} {expected declaredIn : String} {key value : Tag} :
    keyAndValue field expected declaredIn = .ok (key, value) ↔
      ∃ name, field.type = .struct name [key, value] ∧ name.text = expected := by
  unfold keyAndValue
  split
  · next name params shape =>
    rw [shape]
    by_cases same : name.text = expected
    · simp only [same, ne_eq, not_true_eq_false, if_false]
      split
      · constructor
        · intro h
          cases h
          exact ⟨name, rfl, same⟩
        · rintro ⟨other, h, _⟩
          cases h
          rfl
      · next odd =>
        constructor
        · intro h
          cases h
        · rintro ⟨other, h, _⟩
          cases h
          exact absurd rfl (odd key value)
    · simp only [ne_eq, same, not_false_eq_true, if_true]
      constructor
      · intro h
        cases h
      · rintro ⟨other, h, named⟩
        cases h
        exact absurd named same
  · next odd =>
    constructor
    · intro h
      cases h
    · rintro ⟨name, shape, _⟩
      exact absurd shape (odd name _)

end ContainerField

end MoveBindings
