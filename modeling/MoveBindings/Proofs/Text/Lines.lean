import Mathlib.Data.List.Basic
import MoveBindings.Proofs.Path.Components

/-!
# Texts and their lines

A text is cut into lines at each end of a line. Texts that are written on a line
each are found again as the lines of the whole, provided that they have no ends
of lines in them.
-/

namespace MoveBindings.Text

/-- The lines of a text: what stands between the ends of lines, before and after them. -/
def lines (text : String) : List (List Char) := splitOn '\n' text.toList

/-- The lines of a text that are ended in it. -/
def endedLines (text : String) : List (List Char) := (lines text).dropLast

/-- Texts on a line each. -/
def unlines (texts : List String) : String := String.join (texts.map (· ++ "\n"))

@[simp] theorem unlines_nil : unlines [] = "" := rfl

@[simp] theorem unlines_cons (first : String) (rest : List String) :
    unlines (first :: rest) = first ++ "\n" ++ unlines rest := by
  simp [unlines]

@[simp] theorem unlines_append (texts others : List String) :
    unlines (texts ++ others) = unlines texts ++ unlines others := by
  simp [unlines]

theorem toList_unlines (texts : List String) :
    (unlines texts).toList = texts.flatMap fun text => text.toList ++ ['\n'] := by
  rw [unlines, String.toList_join, List.flatMap_map]
  exact List.flatMap_congr fun text _ => String.toList_append

/-- Texts on a line each have the lines of these, and nothing after the last. -/
theorem lines_unlines (texts : List String) :
    lines (unlines texts) = texts.flatMap lines ++ [[]] := by
  induction texts with
  | nil => rfl
  | cons first rest ih =>
    have ends : ("\n" : String).toList = ['\n'] := rfl
    rw [unlines_cons, lines, String.append_assoc, String.toList_append, String.toList_append, ends,
      List.singleton_append, splitOn_append_cons, List.flatMap_cons, List.append_assoc, ← ih]
    rfl

theorem endedLines_unlines {texts : List String} (flat : ∀ text ∈ texts, '\n' ∉ text.toList) :
    endedLines (unlines texts) = texts.map String.toList := by
  rw [endedLines, lines_unlines, List.dropLast_concat, List.map_eq_flatMap]
  exact List.flatMap_congr fun text member => splitOn_of_notMem (flat text member)

theorem intercalate_eq_unlines {texts : List String} (some : texts ≠ []) :
    "\n".intercalate texts ++ "\n" = unlines texts := by
  induction texts with
  | nil => exact absurd rfl some
  | cons first rest ih =>
    cases rest with
    | nil => simp
    | cons second others =>
      rw [String.intercalate_cons_cons, unlines_cons, ← ih (List.cons_ne_nil second others),
        String.append_assoc]

/-- A text of lines has the lines of these, and nothing after the last. -/
theorem lines_intercalate {texts : List String} (some : texts ≠ []) :
    lines ("\n".intercalate texts ++ "\n") = texts.flatMap lines ++ [[]] := by
  rw [intercalate_eq_unlines some, lines_unlines]

end MoveBindings.Text
