/-!
# Searching and cutting text

Texts are lists of characters here. Separators are found from left to right and
never overlap; every cut keeps the empty pieces, so joining the pieces with the
separator gives the text back.
-/

namespace MoveBindings.Text

/-- What follows `start`, if the text begins with it. -/
def dropStart? : (start text : List Char) → Option (List Char)
  | [], text => some text
  | _ :: _, [] => none
  | s :: start, c :: text => if s = c then dropStart? start text else none

theorem dropStart?_eq_some_iff {start text rest : List Char} :
    dropStart? start text = some rest ↔ text = start ++ rest := by
  induction start generalizing text with
  | nil => simp [dropStart?, eq_comm]
  | cons s start ih =>
    cases text with
    | nil => simp [dropStart?]
    | cons c text =>
      by_cases same : s = c
      · simp [dropStart?, same, ih]
      · simp [dropStart?, same, Ne.symm same]

/-- Replaces every occurrence of a pattern from here on, where `skip` characters still belong
to an occurrence that has been replaced. -/
def replaceFrom (pattern replacement : List Char) : (skip : Nat) → List Char → List Char
  | _, [] => []
  | skip + 1, _ :: text => replaceFrom pattern replacement skip text
  | 0, c :: text =>
    if (dropStart? pattern (c :: text)).isSome then
      replacement ++ replaceFrom pattern replacement (pattern.length - 1) text
    else
      c :: replaceFrom pattern replacement 0 text

/-- Every occurrence of a non-empty pattern replaced; an empty pattern occurs nowhere. -/
def replaceAll (pattern replacement text : List Char) : List Char :=
  if pattern.isEmpty then text else replaceFrom pattern replacement 0 text

/-- The pieces of a text between occurrences of one character. -/
def splitOn (separator : Char) : List Char → List (List Char)
  | [] => [[]]
  | c :: text =>
    if c = separator then [] :: splitOn separator text
    else match splitOn separator text with
      | [] => [[c]]
      | piece :: pieces => (c :: piece) :: pieces

/-- What stands before the first occurrence of a character, and what stands after it. -/
def cutAt (separator : Char) (text : List Char) : List Char × List Char :=
  (text.takeWhile (· != separator), (text.dropWhile (· != separator)).drop 1)

/-- Line ends written as carriage return, or carriage return and line feed, become line feeds. -/
def unifyLineEnds : List Char → List Char
  | [] => []
  | '\r' :: '\n' :: text => '\n' :: unifyLineEnds text
  | c :: text => (if c = '\r' then '\n' else c) :: unifyLineEnds text

end MoveBindings.Text
