import Mathlib.Data.List.Nodup
import MoveBindings.Proofs.TypeScript.Scripts
import MoveBindings.Text.Search

/-!
# Scopes of generated files

A file binds names by its imports and by its declarations; what it exports from
elsewhere binds nothing. In the body of a function the parameters and the names
declared there hide those of the file. A name denotes a source only where
nothing else is bound to it.
-/

namespace MoveBindings.TypeScript

/-- What a name at the top level of a file stands for: the whole of a source, one export of a
source, or a declaration of the file. -/
inductive Meaning where
  | whole (source : String)
  | part (source : String)
  | declared
deriving DecidableEq, Repr

/-- The names that an import binds, with their meanings. -/
def Link.scope (link : Link) : List (String × Meaning) :=
  match link.binding with
  | .names names => names.map fun name => (name, .part link.source)
  | .whole name => [(name, .whole link.source)]

/-- The name under which a link binds the whole of its source. -/
def Link.namespace? (link : Link) : Option String :=
  match link.binding with
  | .names _ => none
  | .whole name => some name

/-- The names that a node binds at the top level, with their meanings. -/
def Node.scope : Node → List (String × Meaning)
  | .importFrom link => link.scope
  | .typeAlias declared => [(declared.name, .declared)]
  | .function declared => [(declared.signature.name, .declared)]
  | .classDecl head _ => [(head.name, .declared)]
  | _ => []

/-- The keywords in front of a name that is declared in a function. -/
def declaringKeywords : List String := ["const ", "let "]

/-- The name that a statement declares for those after it. A block declares none: what stands in it
is not seen outside. -/
def Statement.declared? : Statement → Option String
  | .line text =>
    (declaringKeywords.findSome? fun keyword => Text.dropStart? keyword.toList text.toList).map
      fun rest => String.ofList (rest.takeWhile (· != ' '))
  | .block .. => none

/-- The names that are bound in the body of a function. -/
def Function.localNames (function : Function) : List String :=
  function.signature.params.map Parameter.name ++ function.body.filterMap Statement.declared?

namespace Script

/-- The names that a file binds at its top level, with their meanings. -/
def scope (file : Script) : List (String × Meaning) := file.nodes.flatMap Node.scope

/-- The names that a file binds at its top level. -/
def boundNames (file : Script) : List String := file.scope.map Prod.fst

/-- Everything that a name stands for at the top level of a file. -/
def meanings (file : Script) (name : String) : List Meaning :=
  (file.scope.filter fun entry => entry.1 == name).map Prod.snd

/-- The names under which a file imports whole sources. -/
def importedNamespaces (file : Script) : List String := file.imports.filterMap Link.namespace?

/-- The names under which a file exports whole sources. -/
def exportedNamespaces (file : Script) : List String := file.exports.filterMap Link.namespace?

/-- In the body of a function a name denotes the whole of a source: nothing in the function hides
it, and the file binds it once. -/
def Denotes (file : Script) (function : Function) (name source : String) : Prop :=
  name ∉ function.localNames ∧ file.meanings name = [.whole source]

instance (file : Script) (function : Function) (name source : String) :
    Decidable (file.Denotes function name source) :=
  inferInstanceAs (Decidable (_ ∧ _))

@[simp] theorem scope_append (first second : List Node) :
    scope ⟨first ++ second⟩ = scope ⟨first⟩ ++ scope ⟨second⟩ := by
  simp [scope]

@[simp] theorem scope_importFrom (link : Link) (rest : List Node) :
    scope ⟨.importFrom link :: rest⟩ = link.scope ++ scope ⟨rest⟩ := rfl

@[simp] theorem scope_map_importFrom (links : List Link) :
    scope ⟨links.map .importFrom⟩ = links.flatMap Link.scope := by
  simp only [scope, List.flatMap_map]
  rfl

@[simp] theorem scope_map_exportFrom (links : List Link) : scope ⟨links.map .exportFrom⟩ = [] := by
  simp [scope, Node.scope]

@[simp] theorem scope_map_typeAlias (aliases : List TypeAlias) :
    scope ⟨aliases.map .typeAlias⟩ = aliases.map fun declared => (declared.name, .declared) := by
  simp only [scope, List.flatMap_map, Node.scope]
  exact List.map_eq_flatMap.symm

end Script

section

variable {α : Type} {x : α} {elements : List α} {p : α → Bool}

/-- Of different elements just one is kept when no other has the property. -/
theorem filter_eq_singleton_iff (once : elements.Nodup) (member : x ∈ elements)
    (has : p x = true) : elements.filter p = [x] ↔ ∀ y ∈ elements, p y = true → y = x := by
  constructor
  · intro kept y inElements hasToo
    have found : y ∈ elements.filter p := List.mem_filter.mpr ⟨inElements, hasToo⟩
    rwa [kept, List.mem_singleton] at found
  · intro only
    rw [← List.perm_singleton, List.perm_ext_iff_of_nodup (once.filter p) (List.nodup_singleton x)]
    intro y
    rw [List.mem_filter, List.mem_singleton]
    constructor
    · exact fun found => only y found.1 found.2
    · rintro rfl
      exact ⟨member, has⟩

/-- Two lists that make up one element from the first. -/
theorem map_append_map_eq_singleton_iff {α β γ : Type} {f : α → γ} {g : β → γ} {x : α}
    {first : List α} {second : List β} (member : x ∈ first) :
    first.map f ++ second.map g = [f x] ↔ first = [x] ∧ second = [] := by
  constructor
  · intro one
    rcases List.append_eq_singleton_iff.mp one with ⟨none, _⟩ | ⟨single, none⟩
    · cases List.map_eq_nil_iff.mp none
      cases member
    · obtain ⟨y, rfl, _⟩ := List.map_eq_singleton_iff.mp single
      cases List.mem_singleton.mp member
      exact ⟨rfl, List.map_eq_nil_iff.mp none⟩
  · rintro ⟨rfl, rfl⟩
    rfl

end

namespace Script

variable {file : Script} {function : Function} {name source : String}

/-- If no entry of the scope is repeated, a name denotes a source that it is bound to exactly when
nothing else is bound to it. -/
theorem denotes_iff (once : file.scope.Nodup) (bound : (name, .whole source) ∈ file.scope) :
    file.Denotes function name source ↔ name ∉ function.localNames ∧
      ∀ entry ∈ file.scope, entry.1 = name → entry = (name, .whole source) := by
  have one : file.meanings name = [.whole source] ↔
      (file.scope.filter fun entry => entry.1 == name) = [(name, .whole source)] := by
    constructor
    · intro only
      obtain ⟨entry, kept, meaning⟩ := List.map_eq_singleton_iff.mp only
      have named : entry ∈ file.scope.filter fun entry => entry.1 == name := by simp [kept]
      have same : entry.1 = name := eq_of_beq (List.mem_filter.mp named).2
      rw [kept, ← same, ← meaning]
    · intro kept
      rw [meanings, kept]
      rfl
  rw [Denotes, one, filter_eq_singleton_iff once bound (beq_self_eq_true name)]
  simp only [beq_iff_eq]

end Script

/-- A line without blanks declares nothing, since a blank follows the keyword. -/
theorem Statement.declared?_line_of_notMem {text : String} (absent : ' ' ∉ text.toList) :
    (Statement.line text).declared? = none := by
  have noKeyword : (declaringKeywords.findSome? fun keyword =>
      Text.dropStart? keyword.toList text.toList) = none := by
    rw [List.findSome?_eq_none_iff]
    intro keyword member
    rw [Option.eq_none_iff_forall_not_mem]
    intro rest found
    have spelled := Text.dropStart?_eq_some_iff.mp found
    have blank : ∀ keyword ∈ declaringKeywords, ' ' ∈ keyword.toList := by decide
    apply absent
    rw [spelled]
    exact List.mem_append_left rest (blank keyword member)
  rw [Statement.declared?, noKeyword, Option.map_none]

end MoveBindings.TypeScript
