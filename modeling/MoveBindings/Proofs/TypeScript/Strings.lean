import MoveBindings.Proofs.TypeScript.Rows

/-!
# The strings of a file

The strings of a file are its names, types, headers, statements, footers and
sources. The text of a row is put together from them and from the words and
signs of the syntax. So what is kept when texts are put together, and holds of
all strings of a file, can be shown for its rows one kind of row at a time.
-/

namespace MoveBindings.TypeScript

/-! ## Strings -/

def Binding.strings : Binding → List String
  | .names listed => listed
  | .whole boundName => [boundName]

def Link.strings (link : Link) : List String := link.source :: link.binding.strings

def TypeAlias.strings (declared : TypeAlias) : List String := [declared.name, declared.value]

def Parameter.strings (p : Parameter) : List String := [p.modifier, p.name, p.type]

def Signature.strings (s : Signature) : List String :=
  s.name :: s.returnType :: (s.typeParams ++ s.params.flatMap Parameter.strings)

mutual

def Statement.strings : Statement → List String
  | .line text => [text]
  | .block header body footer => header :: footer :: bodyStrings body

/-- The strings of statements. -/
def bodyStrings : List Statement → List String
  | [] => []
  | first :: rest => first.strings ++ bodyStrings rest

end

def ClassHead.strings (head : ClassHead) : List String := head.name :: head.typeParams

mutual

/-- The strings of a node, with those of its members and statements. -/
def Node.strings : Node → List String
  | .importFrom link => link.strings
  | .exportFrom link => link.strings
  | .typeAlias declared => declared.strings
  | .function f => f.signature.strings ++ bodyStrings f.body
  | .classDecl head members => head.strings ++ nodesStrings members
  | .property declared => [declared.name, declared.type]
  | .constructor c => c.params.flatMap Parameter.strings ++ bodyStrings c.body
  | .method m => m.signature.strings ++ bodyStrings m.body
  | .statement s => s.strings

/-- The strings of nodes. -/
def nodesStrings : List Node → List String
  | [] => []
  | first :: rest => first.strings ++ nodesStrings rest

end

/-- The strings of a file. -/
def Script.strings (file : Script) : List String := nodesStrings file.nodes

theorem nodesStrings_eq_flatMap (nodes : List Node) :
    nodesStrings nodes = nodes.flatMap Node.strings := by
  induction nodes with
  | nil => rfl
  | cons first rest ih => rw [nodesStrings, List.flatMap_cons, ih]

theorem nodesStrings_append (nodes others : List Node) :
    nodesStrings (nodes ++ others) = nodesStrings nodes ++ nodesStrings others := by
  simp only [nodesStrings_eq_flatMap, List.flatMap_append]

/-! ## Texts that are put together -/

/-- A text without ends of lines and braces. -/
def IsPlain (text : String) : Prop :=
  ∀ c ∈ text.toList, c ≠ '\n' ∧ c ≠ '\x7b' ∧ c ≠ '\x7d'

-- Going through the text, not through all characters.
instance (text : String) : Decidable (IsPlain text) := List.decidableBAll _ _

/-- A property of all plain texts that is kept when texts are put one after the other or between
braces. -/
structure IsKept (Q : String → Prop) : Prop where
  plain {text : String} (h : IsPlain text) : Q text
  append {text other : String} (first : Q text) (second : Q other) : Q (text ++ other)
  braces {text : String} (inside : Q text) : Q ("\x7b " ++ text ++ " \x7d")

namespace IsKept

variable {Q : String → Prop}

theorem intercalate (kept : IsKept Q) {separator : String} (between : Q separator)
    {texts : List String} (all : ∀ text ∈ texts, Q text) : Q (separator.intercalate texts) := by
  induction texts with
  | nil => exact kept.plain (by simp [IsPlain])
  | cons first rest ih =>
    obtain ⟨here, later⟩ := List.forall_mem_cons.mp all
    cases rest with
    | nil => rwa [String.intercalate_singleton]
    | cons second others =>
      rw [String.intercalate_cons_cons]
      exact kept.append (kept.append here between) (ih later)

theorem keyword (kept : IsKept Q) (applies : Bool) {word : String} (h : Q word) :
    Q (keyword applies word) := by
  have nothing : Q "" := kept.plain (by decide)
  cases applies with
  | false => exact nothing
  | true => exact kept.append h (kept.plain (by decide))

theorem quoteSource (kept : IsKept Q) {source : String} (h : Q source) :
    Q (quoteSource source) := by
  unfold TypeScript.quoteSource
  split
  · exact kept.append (kept.append (kept.plain (by decide)) h) (kept.plain (by decide))
  · exact kept.append (kept.append (kept.plain (by decide)) h) (kept.plain (by decide))

theorem braced (kept : IsKept Q) {names : List String} (all : ∀ name ∈ names, Q name) :
    Q (braced names) :=
  kept.braces (kept.intercalate (kept.plain (by decide)) all)

/-- The text of an import or export is kept with what it binds. -/
theorem linkText (kept : IsKept Q) {word what source : String} (start : IsPlain word)
    (binds : Q what) (h : Q source) :
    Q (word ++ what ++ " from " ++ TypeScript.quoteSource source ++ ";") :=
  kept.append (kept.append (kept.append (kept.append (kept.plain start) binds)
    (kept.plain (by decide))) (kept.quoteSource h)) (kept.plain (by decide))

theorem wholeText (kept : IsKept Q) {boundName : String} (h : Q boundName) :
    Q ("* as " ++ boundName) := kept.append (kept.plain (by decide)) h

theorem importText (kept : IsKept Q) {link : Link} (all : ∀ text ∈ link.strings, Q text) :
    Q link.importText := by
  obtain ⟨source, binding⟩ := link
  obtain ⟨here, bound⟩ := List.forall_mem_cons.mp all
  cases binding with
  | whole boundName =>
    exact kept.linkText (by decide) (kept.wholeText (bound _ (List.mem_singleton_self _))) here
  | names listed => exact kept.linkText (by decide) (kept.braced bound) here

theorem exportText (kept : IsKept Q) {link : Link} (all : ∀ text ∈ link.strings, Q text) :
    Q link.exportText := by
  obtain ⟨source, binding⟩ := link
  obtain ⟨here, bound⟩ := List.forall_mem_cons.mp all
  cases binding with
  | whole boundName =>
    exact kept.linkText (by decide) (kept.wholeText (bound _ (List.mem_singleton_self _))) here
  | names listed =>
    cases listed with
    | nil =>
      have everything : IsPlain "*" := by decide
      exact kept.linkText (by decide) (kept.plain everything) here
    | cons => exact kept.linkText (by decide) (kept.braced bound) here

theorem aliasText (kept : IsKept Q) {declared : TypeAlias}
    (all : ∀ text ∈ declared.strings, Q text) : Q declared.text := by
  simp only [TypeAlias.strings, List.forall_mem_cons] at all
  obtain ⟨name, value, _⟩ := all
  exact kept.append (kept.append (kept.append (kept.append (kept.append
    (kept.keyword _ (kept.plain (by decide))) (kept.plain (by decide))) name)
    (kept.plain (by decide))) value) (kept.plain (by decide))

theorem parameterText (kept : IsKept Q) {p : Parameter} (all : ∀ text ∈ p.strings, Q text) :
    Q p.text := by
  simp only [Parameter.strings, List.forall_mem_cons] at all
  obtain ⟨modifier, name, type, _⟩ := all
  refine kept.append (kept.append ?_ name) ?_
  · split
    · exact kept.plain (by decide)
    · exact kept.append modifier (kept.plain (by decide))
  · split
    · exact kept.plain (by decide)
    · exact kept.append (kept.plain (by decide)) type

theorem paramsText (kept : IsKept Q) {params : List Parameter}
    (all : ∀ text ∈ params.flatMap Parameter.strings, Q text) : Q (paramsText params) := by
  refine kept.intercalate (kept.plain (by decide)) fun text member => ?_
  obtain ⟨p, listed, rfl⟩ := List.mem_map.mp member
  exact kept.parameterText fun text inside => all text (List.mem_flatMap.mpr ⟨p, listed, inside⟩)

theorem typeParamsText (kept : IsKept Q) {params : List String} (all : ∀ text ∈ params, Q text) :
    Q (typeParamsText params) := by
  unfold TypeScript.typeParamsText
  split
  · exact kept.plain (by decide)
  · exact kept.append (kept.append (kept.plain (by decide))
      (kept.intercalate (kept.plain (by decide)) all)) (kept.plain (by decide))

theorem signatureText (kept : IsKept Q) {s : Signature} (all : ∀ text ∈ s.strings, Q text) :
    Q s.text := by
  simp only [Signature.strings, List.forall_mem_cons, List.forall_mem_append] at all
  obtain ⟨name, returnType, typeParams, params⟩ := all
  refine kept.append (kept.append (kept.append (kept.append (kept.append name
    (kept.typeParamsText typeParams)) (kept.plain (by decide))) (kept.paramsText params))
    (kept.plain (by decide))) ?_
  split
  · exact kept.plain (by decide)
  · exact kept.append (kept.plain (by decide)) returnType

end IsKept

/-! ## Rows -/

/-- A property of rows that stand in a number of braces, by kind of row: it is kept when rows follow
each other, and holds of each row whose texts have the property `Q`. -/
structure RowRules (Q : String → Prop) (P : Nat → List Row → Prop) : Prop where
  nil (depth : Nat) : P depth []
  append {depth : Nat} {first second : List Row} (before : P depth first)
    (after : P depth second) : P depth (first ++ second)
  blank (depth : Nat) : P depth [.blank]
  link {text : String} (h : Q text) : P 0 [.link text]
  code (depth : Nat) {text : String} (h : Q text) : P depth [.code depth text]
  block {depth : Nat} {header footer : String} {inside : List Row} (start : Q header)
    (nested : P (depth + 1) inside) (finish : Q footer) :
    P depth (Row.block depth header inside footer)

namespace RowRules

variable {Q : String → Prop} {P : Nat → List Row → Prop}

mutual

theorem statement (rules : RowRules Q P) (depth : Nat) : (s : Statement) →
    (∀ text ∈ s.strings, Q text) → P depth (s.rows depth)
  | .line text, all => rules.code depth (all text (List.mem_singleton_self _))
  | .block header body footer, all => by
    simp only [Statement.strings, List.forall_mem_cons] at all
    exact rules.block all.1 (rules.body (depth + 1) body all.2.2) all.2.1

theorem body (rules : RowRules Q P) (depth : Nat) : (statements : List Statement) →
    (∀ text ∈ bodyStrings statements, Q text) → P depth (bodyRows depth statements)
  | [], _ => rules.nil depth
  | first :: rest, all => by
    obtain ⟨here, later⟩ := List.forall_mem_append.mp all
    exact rules.append (rules.statement depth first here) (rules.body depth rest later)

end

/-- A blank row comes first, or none. -/
theorem separated (rules : RowRules Q P) (depth : Nat) (first : Bool) {rows : List Row}
    (h : P depth rows) : P depth ((if first then [.blank] else []) ++ rows) := by
  cases first with
  | false => exact h
  | true => exact rules.append (rules.blank depth) h

theorem memberRows (rules : RowRules Q P) (kept : IsKept Q) {node : Node}
    (all : ∀ text ∈ node.strings, Q text) : P 1 node.memberRows := by
  have nothing : Q "" := kept.plain (by decide)
  cases node with
  | property declared =>
    simp only [Node.strings, List.forall_mem_cons] at all
    exact rules.code 1 (kept.append (kept.append (kept.append all.1 (kept.plain (by decide)))
      all.2.1) (kept.plain (by decide)))
  | constructor c =>
    obtain ⟨params, statements⟩ := List.forall_mem_append.mp all
    exact rules.block (kept.append (kept.append (kept.plain (by decide)) (kept.paramsText params))
      (kept.plain (by decide))) (rules.body 2 _ statements) nothing
  | method m =>
    obtain ⟨signature, statements⟩ := List.forall_mem_append.mp all
    exact rules.block (kept.append (kept.append (kept.keyword _ (kept.plain (by decide)))
      (kept.keyword _ (kept.plain (by decide)))) (kept.signatureText signature))
      (rules.body 2 _ statements) nothing
  | _ => exact rules.nil 1

theorem classRows (rules : RowRules Q P) (kept : IsKept Q) {members : List Node}
    (all : ∀ text ∈ nodesStrings members, Q text) (first : Bool) :
    P 1 (Node.classRows first members) := by
  induction members generalizing first with
  | nil => exact rules.nil 1
  | cons node rest ih =>
    obtain ⟨here, later⟩ := List.forall_mem_append.mp all
    exact rules.append (rules.separated 1 first (rules.memberRows kept here)) (ih later _)

theorem nodeRows (rules : RowRules Q P) (kept : IsKept Q) {node : Node}
    (all : ∀ text ∈ node.strings, Q text) : P 0 node.rows := by
  have nothing : Q "" := kept.plain (by decide)
  cases node with
  | importFrom link => exact rules.link (kept.importText all)
  | exportFrom link => exact rules.link (kept.exportText all)
  | typeAlias declared => exact rules.code 0 (kept.aliasText all)
  | function f =>
    obtain ⟨signature, statements⟩ := List.forall_mem_append.mp all
    exact rules.block (kept.append (kept.append (kept.append
      (kept.keyword _ (kept.plain (by decide))) (kept.keyword _ (kept.plain (by decide))))
      (kept.plain (by decide))) (kept.signatureText signature)) (rules.body 1 _ statements) nothing
  | classDecl head members =>
    obtain ⟨headStrings, inside⟩ := List.forall_mem_append.mp all
    obtain ⟨name, typeParams⟩ := List.forall_mem_cons.mp headStrings
    exact rules.block (kept.append (kept.append (kept.append
      (kept.keyword _ (kept.plain (by decide))) (kept.plain (by decide))) name)
      (kept.typeParamsText typeParams)) (rules.classRows kept inside false) nothing
  | _ => exact rules.nil 0

theorem rowsAfter (rules : RowRules Q P) (kept : IsKept Q) {nodes : List Node}
    (all : ∀ text ∈ nodesStrings nodes, Q text) (before : Option Group) :
    P 0 (Node.rowsAfter before nodes) := by
  induction nodes generalizing before with
  | nil => exact rules.nil 0
  | cons node rest ih =>
    obtain ⟨here, later⟩ := List.forall_mem_append.mp all
    exact rules.append (rules.separated 0 _ (rules.nodeRows kept here)) (ih later _)

/-- What holds of all strings of a file holds of its rows. -/
theorem file (rules : RowRules Q P) (kept : IsKept Q) {script : Script}
    (all : ∀ text ∈ script.strings, Q text) : P 0 script.rows := by
  obtain ⟨nodes⟩ := script
  cases nodes with
  | nil => exact rules.blank 0
  | cons first rest => exact rules.rowsAfter kept all none

end RowRules

/-! ## Ends of lines -/

/-- A text without ends of lines. -/
def IsFlat (text : String) : Prop := '\n' ∉ text.toList

instance (text : String) : Decidable (IsFlat text) := inferInstanceAs (Decidable (¬_))

theorem IsFlat.append {text other : String} (first : IsFlat text) (second : IsFlat other) :
    IsFlat (text ++ other) := by
  simp only [IsFlat, String.toList_append, List.mem_append, not_or]
  exact ⟨first, second⟩

theorem isKept_isFlat : IsKept IsFlat where
  plain h ends := (h _ ends).1 rfl
  append := .append
  braces inside := (IsFlat.append (by decide) inside).append (by decide)

theorem isFlat_join {texts : List String} (flat : ∀ text ∈ texts, IsFlat text) :
    IsFlat (String.join texts) := by
  simp only [IsFlat, String.toList_join, List.mem_flatMap, not_exists, not_and]
  exact flat

/-- A row is flat with its indentation when it is flat without. -/
theorem isFlat_row {p : Printer} {row : Row} (indent : IsFlat p.indent) (flat : IsFlat row.text) :
    IsFlat (p.row row) := by
  cases row with
  | blank | link text => exact flat
  | code depth text =>
    exact (isFlat_join fun _ member => List.eq_of_mem_replicate member ▸ indent).append flat

/-- The rows of a file whose strings have no ends of lines have none. -/
theorem isFlat_of_mem_rows {script : Script} (flat : ∀ text ∈ script.strings, IsFlat text) :
    ∀ row ∈ script.rows, IsFlat row.text := by
  have rules : RowRules IsFlat fun _ rows => ∀ row ∈ rows, IsFlat row.text :=
    { nil _ := by simp
      append before after := List.forall_mem_append.mpr ⟨before, after⟩
      blank _ := by simp [Row.text, IsFlat]
      link h := List.forall_mem_singleton.mpr h
      code _ _ h := List.forall_mem_singleton.mpr h
      block start nested finish := by
        simp only [Row.block, List.forall_mem_append, List.forall_mem_cons]
        exact ⟨⟨start.append (by decide), nested⟩, .append (by decide) finish,
          List.forall_mem_nil _⟩ }
  exact rules.file isKept_isFlat flat

/-- The lines of a file are its rows, each with its indentation. -/
theorem Printer.endedLines_of_file {p : Printer} {script : Script} {text : String}
    (flat : ∀ text ∈ script.strings, IsFlat text) (indent : IsFlat p.indent)
    (made : p.file script = .ok text) :
    Text.endedLines text = script.rows.map fun row => (p.row row).toList := by
  obtain ⟨_, rfl⟩ := p.file_eq_ok_iff.mp made
  rw [Text.endedLines_unlines, List.map_map]
  · rfl
  · intro line member
    obtain ⟨row, inFile, rfl⟩ := List.mem_map.mp member
    exact isFlat_row indent (isFlat_of_mem_rows flat row inFile)

end MoveBindings.TypeScript
