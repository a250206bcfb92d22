import MoveBindings.Declaration.Catalog
import MoveBindings.Text.Search

/-!
# Manifests

A manifest describes packages in JSON. Every declaration has a name that is not
empty, a module also an address, and a field a type. The lists of modules,
structs and fields may be left out. Packages are added one after the other, so
those before a faulty one stay.
-/

namespace MoveBindings

namespace Manifest

/-- The text of a required member: a string that is not empty. -/
def required (value : Json) (key : String) (part : ManifestPart) : Except Failure String :=
  match value.member? key with
  | some (.string text) =>
    if text = "" then .error (.manifest (.missing key part)) else .ok text
  | _ => .error (.manifest (.missing key part))

/-- The elements of a member that should be a list. A missing one has none. The elements of a text
are its characters and those of an object its names, so only empty ones can stand for a list. -/
def elements (value : Json) (key : String) : Except Failure (List Json) :=
  match value.member? key with
  | none => .ok []
  | some (.array items) => .ok items
  | some (.string text) => .ok (text.toList.map fun c => .string (String.singleton c))
  | some (.object members) => .ok (members.map fun member => .string member.1)
  | some _ => .error .notAList

/-- The type that a text spells. -/
def typeOf (text : String) : Except Failure Tag :=
  match Tag.read text with
  | .ok tag => .ok tag
  | .error error => .error (.tag error)

/-- A field of a struct. -/
def field (module : ModuleId) (struct : String) (value : Json) : Except Failure Field := do
  let part := ManifestPart.field module struct
  let name ← required value "name" part
  let type ← typeOf (← required value "type" part)
  return ⟨name, type⟩

/-- A struct of a module. -/
def struct (module : ModuleId) (value : Json) : Except Failure Struct := do
  let name ← required value "name" (.struct module)
  let fields ← (← elements value "fields").mapM (field module name)
  return ⟨name, fields⟩

/-- A module of a package. -/
def module (package : String) (value : Json) : Except Failure Module := do
  let address ← required value "address" (.module package)
  let name ← required value "name" (.module package)
  let id : ModuleId := ⟨address, name⟩
  let structs ← (← elements value "structs").mapM (struct id)
  return ⟨id, structs⟩

/-- A package. -/
def package (value : Json) : Except Failure Package := do
  let name ← required value "name" .package
  let modules ← (← elements value "modules").mapM (module name)
  return ⟨name, modules⟩

end Manifest

namespace Catalog

/-- Adds the packages that values describe, up to the first one that fails. -/
def addAll (c : Catalog) : List Json → Except Failure Unit × Catalog
  | [] => (.ok (), c)
  | value :: rest =>
    match Manifest.package value >>= c.add with
    | .ok extended => extended.addAll rest
    | .error failure => (.error failure, c)

/-- Adds the packages of a manifest. -/
def addManifest (c : Catalog) (manifest : Json) : Except Failure Unit × Catalog :=
  match manifest.member? "packages" with
  | some (.array packages) => c.addAll packages
  | _ => (.error (.manifest .noPackages), c)

/-- Adds the packages of a manifest given as the text of a file. -/
def addManifestText (c : Catalog) (path text : String) : Except Failure Unit × Catalog :=
  match Json.read (String.ofList (Text.unifyLineEnds text.toList)) with
  | .ok manifest => c.addManifest manifest
  | .error error => (.error (.manifest (.unreadable path error)), c)

@[simp] theorem addAll_nil (c : Catalog) : c.addAll [] = (.ok (), c) := rfl

theorem addAll_cons_of_ok {c extended : Catalog} {value : Json}
    (h : (Manifest.package value >>= c.add) = .ok extended) (rest : List Json) :
    c.addAll (value :: rest) = extended.addAll rest := by
  rw [addAll, h]

/-- After a failure the catalog is what it was before the faulty package. -/
theorem addAll_cons_of_error {c : Catalog} {value : Json} {failure : Failure}
    (h : (Manifest.package value >>= c.add) = .error failure) (rest : List Json) :
    c.addAll (value :: rest) = (.error failure, c) := by
  rw [addAll, h]

end Catalog

end MoveBindings
