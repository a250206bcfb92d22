import MoveBindings.Proofs.Text.Balanced
import MoveBindings.Proofs.TypeScript.Strings

/-!
# Braces and indentation

When the braces of all strings of a file are balanced, so are those of its text,
and each line is indented as deep as the braces before it are open. A line that
starts with a closing brace stands one level further out.
-/

namespace MoveBindings.TypeScript

open Text

variable {p : Printer}

/-! ## Braces of rows -/

/-- Whether a row stands at its depth after a number of open braces. -/
def Row.IsAt (opened : Int) (row : Row) : Prop :=
  row = .blank ∨
    opened = row.depth + if row.text.toList.head? = some closeBrace then 1 else 0

/-- The characters of rows without indentation. -/
def Row.chars (rows : List Row) : List Char := rows.flatMap fun row => row.text.toList

theorem Row.chars_cons (row : Row) (rest : List Row) :
    chars (row :: rest) = row.text.toList ++ chars rest := rfl

/-- Whether each of some rows stands at its depth after a number of open braces. -/
def Row.AreAt (opened : Int) : List Row → Prop
  | [] => True
  | row :: rest => row.IsAt opened ∧ AreAt (opened + braceDepth row.text.toList) rest

theorem Row.areAt_append {opened : Int} {rows others : List Row} :
    AreAt opened (rows ++ others) ↔
      AreAt opened rows ∧ AreAt (opened + braceDepth (chars rows)) others := by
  induction rows generalizing opened with
  | nil => simp [AreAt, chars]
  | cons row rest ih =>
    rw [List.cons_append, AreAt, AreAt, ih, and_assoc, chars_cons, braceDepth_append,
      Int.add_assoc]

theorem Row.AreAt.isAt {opened : Int} {rows : List Row} (h : AreAt opened rows) {i : Nat}
    {row : Row} (found : rows[i]? = some row) :
    row.IsAt (opened + braceDepth (chars (rows.take i))) := by
  obtain ⟨inside, rfl⟩ := List.getElem?_eq_some_iff.mp found
  rw [← List.take_append_drop i rows, List.drop_eq_getElem_cons inside, areAt_append] at h
  exact h.2.1

/-! ## Braces of lines -/

section

variable (spaces : ∀ c ∈ p.indent.toList, c = ' ')

include spaces

/-- Indentation neither opens nor closes anything. -/
theorem isBraceless_margin (copies : Nat) : IsBraceless (p.margin copies).toList := by
  intro c member
  simp only [Printer.margin, String.toList_join, List.mem_flatMap, List.mem_replicate] at member
  obtain ⟨_, ⟨_, rfl⟩, member⟩ := member
  rw [spaces c member]
  decide

theorem braceDepth_row (row : Row) :
    braceDepth (p.row row).toList = braceDepth row.text.toList := by
  cases row with
  | blank | link text => rfl
  | code depth text =>
    rw [Printer.row_code, String.toList_append, braceDepth_append,
      (isBraceless_margin spaces _).braceDepth_eq_zero, Int.zero_add, Row.text]

theorem braceDepth_unlines (rows : List Row) :
    braceDepth (unlines (rows.map p.row)).toList = braceDepth (Row.chars rows) := by
  rw [toList_unlines, List.flatMap_map]
  refine braceDepth_flatMap_congr (fun row => ?_) rows
  have ends : braceDepth ['\n'] = 0 := by decide
  rw [braceDepth_append, braceDepth_row spaces, ends, Int.add_zero]

/-- A line has balanced braces when its text has. -/
theorem isBalanced_line {row : Row} (h : IsBalanced row.text.toList) :
    IsBalanced (p.row row).toList := by
  cases row with
  | blank | link text => exact h
  | code depth text =>
    rw [Printer.row_code, String.toList_append]
    exact (isBraceless_margin spaces _).isBalanced.append h

end

/-- Rows with balanced lines that stand at their depth when as many braces are open. -/
structure Nests (p : Printer) (depth : Nat) (rows : List Row) : Prop where
  balanced : IsBalanced (unlines (rows.map p.row)).toList
  placed : Row.AreAt depth rows

namespace Nests

variable {depth : Nat} {header footer : String} {first second inside : List Row}
  (spaces : ∀ c ∈ p.indent.toList, c = ' ')

include spaces

/-- What nests opens nothing in the end. -/
theorem braceDepth_chars (h : Nests p depth first) : braceDepth (Row.chars first) = 0 := by
  rw [← braceDepth_unlines spaces, h.balanced.braceDepth_eq]

theorem append (before : Nests p depth first) (after : Nests p depth second) :
    Nests p depth (first ++ second) where
  balanced := by
    rw [List.map_append, unlines_append, String.toList_append]
    exact before.balanced.append after.balanced
  placed := by
    rw [Row.areAt_append, before.braceDepth_chars spaces, Int.add_zero]
    exact ⟨before.placed, after.placed⟩

/-- A balanced text nests on a row of its own. -/
theorem single (row : Row) (h : IsBalanced row.text.toList) : Nests p row.depth [row] where
  balanced := by
    rw [toList_unlines, List.map_singleton, List.flatMap_singleton]
    exact (isBalanced_line spaces h).append (by decide)
  placed := ⟨.inr (by rw [if_neg h.head?_ne, Int.add_zero]), trivial⟩

/-- The braces of a block are closed at its end, and what nests inside is one level deeper. -/
theorem block (start : IsBalanced header.toList) (nested : Nests p (depth + 1) inside)
    (finish : IsBalanced footer.toList) :
    Nests p depth (Row.block depth header inside footer) where
  balanced := by
    have margin := (isBraceless_margin spaces (p.level + depth).toNat).isBalanced
    have space : IsBalanced [' '] := by decide
    have ends : IsBalanced ['\n'] := by decide
    have body := ((ends.append nested.balanced).append margin).nest
    have all := ((margin.append start).append space).append (body.append (finish.append ends))
    convert all using 1
    simp [Row.block, Printer.row_code, openBrace, closeBrace]
  placed := by
    have opens : braceDepth (header ++ " \x7b").toList = 1 := by
      rw [String.toList_append, braceDepth_append, start.braceDepth_eq]
      decide
    have first : (header ++ " \x7b").toList.head? ≠ some closeBrace := by
      rw [String.toList_append, List.head?_append, ne_eq, Option.or_eq_some_iff]
      rintro (closes | ⟨_, closes⟩)
      · exact start.head?_ne closes
      · exact absurd closes (by decide)
    have last : ("\x7d" ++ footer).toList.head? = some closeBrace := by
      rw [String.toList_append]
      rfl
    refine ⟨.inr ?_, Row.areAt_append.mpr ⟨?_, ?_, trivial⟩⟩
    · rw [Row.text, if_neg first, Row.depth, Int.add_zero]
    · rw [Row.text, opens]
      exact nested.placed
    · right
      rw [nested.braceDepth_chars spaces, Row.text, Row.text, if_pos last, opens, Row.depth,
        Int.add_zero]

end Nests

theorem isKept_isBalanced : IsKept fun text => IsBalanced text.toList where
  plain h := IsBraceless.isBalanced fun c member => (h c member).2
  append first second := by
    rw [String.toList_append]
    exact first.append second
  braces inside := by
    have space : IsBalanced [' '] := by decide
    have all := ((space.append inside).append space).nest
    convert all using 1
    simp [openBrace, closeBrace]

theorem rowRules_nests (spaces : ∀ c ∈ p.indent.toList, c = ' ') :
    RowRules (fun text => IsBalanced text.toList) (Nests p) where
  nil _ := ⟨IsBraceless.isBalanced nofun, trivial⟩
  append := .append spaces
  blank _ := by
    have ends : IsBalanced ['\n'] := by decide
    exact ⟨by simpa [toList_unlines, Printer.row] using ends, .inl rfl, trivial⟩
  link := .single spaces (.link _)
  code depth _ := .single spaces (.code depth _)
  block := .block spaces

/-! ## Braces of files -/

theorem Printer.row_of_level_zero (start : p.level = 0) (row : Row) :
    p.row row = p.margin row.depth ++ row.text := by
  cases row with
  | blank => rfl
  | link text => exact String.empty_append.symm
  | code depth text => rw [row_code, start, Int.zero_add, Int.toNat_natCast, Row.depth, Row.text]

/-- The braces of a file match, and its lines are its rows, indented as deep as the braces before
them are open. -/
theorem Printer.braces_match_indentation {script : Script} {text : String} (start : p.level = 0)
    (spaces : ∀ c ∈ p.indent.toList, c = ' ')
    (clean : ∀ part ∈ script.strings, IsFlat part ∧ IsBalanced part.toList)
    (made : p.file script = .ok text) :
    IsBalanced text.toList ∧ (endedLines text).length = script.rows.length ∧
      ∀ (i : Nat) (line : List Char) (row : Row), (endedLines text)[i]? = some line →
        script.rows[i]? = some row →
        row = .blank ∧ line = [] ∨
          ∃ copies : Nat, line = (p.margin copies ++ row.text).toList ∧
            copies = braceDepth ((endedLines text).take i).flatten -
              if row.text.toList.head? = some closeBrace then 1 else 0 := by
  have nests : Nests p 0 script.rows :=
    (rowRules_nests spaces).file isKept_isBalanced fun part member => (clean part member).2
  have indent : IsFlat p.indent := fun ends => absurd (spaces _ ends) (by decide)
  have listed := endedLines_of_file (fun part member => (clean part member).1) indent made
  obtain ⟨_, rfl⟩ := p.file_eq_ok_iff.mp made
  refine ⟨nests.balanced, by rw [listed, List.length_map], fun i line row at_i found => ?_⟩
  rw [listed, List.getElem?_map, found] at at_i
  obtain rfl := Option.some.inj at_i
  have before : braceDepth ((endedLines (unlines (script.rows.map p.row))).take i).flatten =
      braceDepth (Row.chars (script.rows.take i)) := by
    rw [listed, ← List.map_take, ← List.flatMap_def]
    exact braceDepth_flatMap_congr (braceDepth_row spaces) _
  rcases nests.placed.isAt found with rfl | opened
  · exact .inl ⟨rfl, rfl⟩
  · refine .inr ⟨row.depth, congrArg String.toList (row_of_level_zero start row), ?_⟩
    rw [before]
    omega

/-- A block in a method of a class, with a footer that has braces of its own. -/
theorem Printer.braces_match_indentation_of_footer :
    let script : Script := ⟨[.importFrom ⟨"aptos", .names ["HexString"]⟩,
      .classDecl { name := "Gem" } [.property ⟨"size", "U64"⟩,
        .method { signature := { name := "load" },
                  body := [.block "try" [.line "read();"] " catch (e) \x7b\x7d"] }]]⟩
    ∃ text, ({} : Printer).file script = .ok text ∧ IsBalanced text.toList ∧
      ∃ line, (endedLines text)[7]? = some line ∧
        ∃ copies : Nat, line = (({} : Printer).margin copies ++ "\x7d catch (e) \x7b\x7d").toList ∧
          copies = braceDepth ((endedLines text).take 7).flatten - 1 := by
  intro script
  obtain ⟨text, made⟩ : ∃ text, ({} : Printer).file script = .ok text := ⟨_, rfl⟩
  obtain ⟨balanced, count, placed⟩ :=
    Printer.braces_match_indentation rfl (by simp) (by decide) made
  have inside : 7 < (endedLines text).length := by
    rw [count]
    decide
  refine ⟨text, made, balanced, _, List.getElem?_eq_getElem inside, ?_⟩
  obtain ⟨impossible, _⟩ | found :=
    placed 7 _ (.code 2 "\x7d catch (e) \x7b\x7d") (List.getElem?_eq_getElem inside) (by decide)
  · cases impossible
  · exact found

end MoveBindings.TypeScript
