import MoveBindings.Tag.Basic
import MoveBindings.Text.Alphanumeric
import MoveBindings.Text.Quoted
import MoveBindings.Text.Reading

/-!
# Reading type tags

The text of a tag is a scalar's keyword, `vector<tag>`, or
`address::module::name` with an optional list of parameters between angle
brackets. Blanks may stand before every token and at the end, but not inside a
word or inside the double colon. The reader goes from left to right and stops
at the first place where no tag can continue.
-/

namespace MoveBindings.Tag

open Text

/-- The tokens that are not words. -/
inductive Token where
  | doubleColon
  | opening
  | closing
deriving DecidableEq, Repr

namespace Token

/-- A token as it is written. -/
def text : Token → String
  | .doubleColon => "::"
  | .opening => "<"
  | .closing => ">"

theorem toList_text_ne_nil (token : Token) : token.text.toList ≠ [] := by
  cases token <;> decide

end Token

/-- What can be wrong with the text of a tag or of a qualified name. -/
inductive Problem where
  | identifierExpected
  | tokenExpected (token : Token)
  | trailingInput
  | notQualified
deriving DecidableEq, Repr

/-- The wording of a problem. -/
def Problem.text : Problem → String
  | .identifierExpected => "expected an identifier"
  | .tokenExpected token => "expected " ++ quote token.text
  | .trailingInput => "unexpected trailing input"
  | .notQualified => "expected address::module::name"

/-- A text that is no tag, with the first problem and its position. -/
structure SyntaxError where
  text : String
  position : Nat
  problem : Problem
deriving DecidableEq, Repr

namespace SyntaxError

/-- The report that something is wrong at a position of a tag's text. -/
def report (text : String) (position : Int) (reason : String) : String :=
  "Invalid type tag " ++ quote text ++ " at position " ++ toString position ++ ": " ++ reason

/-- The report of an error. -/
def message (e : SyntaxError) : String := report e.text e.position e.problem.text

end SyntaxError

namespace Reader

/-- What follows a token, after any blanks. -/
def token (expected : Token) (text : List Char) :
    Except (Stop Problem) (Reading Unit text) :=
  let start := skipBlank text
  let written := expected.text.toList
  if starts : written.isPrefixOf start then
    .ok ⟨(), start.drop written.length, by
      have nonempty : 0 < written.length := List.length_pos_iff.mpr expected.toList_text_ne_nil
      have fits := (List.isPrefixOf_iff_prefix.mp starts).length_le
      have bound : start.length ≤ text.length := length_skipBlank_le text
      rw [List.length_drop]
      omega⟩
  else .error ⟨.tokenExpected expected, start⟩

/-- A word, after any blanks. -/
def word (text : List Char) : Except (Stop Problem) (Reading String text) :=
  let start := skipBlank text
  match first : start with
  | c :: rest =>
    if isWordChar c then
      .ok ⟨String.ofList (c :: rest.takeWhile isWordChar), rest.dropWhile isWordChar, by
        have bound : start.length ≤ text.length := length_skipBlank_le text
        have shrinks := (List.dropWhile_suffix isWordChar (l := rest)).length_le
        rw [first, List.length_cons] at bound
        omega⟩
    else .error ⟨.identifierExpected, c :: rest⟩
  | [] => .error ⟨.identifierExpected, []⟩

mutual

/-- Reads a tag off the front of a text. -/
def tag (text : List Char) : Except (Stop Problem) (Reading Tag text) := do
  let ⟨keyword, afterWord, h⟩ ← word text
  if keyword ∈ scalarNames then
    return ⟨.scalar keyword, afterWord, h⟩
  else if keyword = vectorName then
    let ⟨_, inside, h₁⟩ ← token .opening afterWord
    let ⟨element, afterElement, h₂⟩ ← tag inside
    let ⟨_, rest, h₃⟩ ← token .closing afterElement
    return ⟨.vector element, rest, by omega⟩
  else
    let ⟨_, afterAddress, h₁⟩ ← token .doubleColon afterWord
    let ⟨module, afterModule, h₂⟩ ← word afterAddress
    let ⟨_, beforeName, h₃⟩ ← token .doubleColon afterModule
    let ⟨name, afterName, h₄⟩ ← word beforeName
    match firstNonBlank? afterName with
    | some ⟨'<', inside, h₅⟩ =>
      let ⟨params, rest, h₆⟩ ← tags inside
      return ⟨.struct ⟨keyword, module, name⟩ params, rest, by omega⟩
    | _ => return ⟨.struct ⟨keyword, module, name⟩ [], afterName, by omega⟩
termination_by (text.length, 0)

/-- Reads tags separated by commas, up to the closing angle bracket. -/
def tags (text : List Char) : Except (Stop Problem) (Reading (List Tag) text) := do
  let ⟨first, afterFirst, h⟩ ← tag text
  match firstNonBlank? afterFirst with
  | some ⟨',', more, h₁⟩ =>
    let ⟨others, rest, h₂⟩ ← tags more
    return ⟨first :: others, rest, by omega⟩
  | _ =>
    let ⟨_, rest, h₁⟩ ← token .closing afterFirst
    return ⟨[first], rest, by omega⟩
termination_by (text.length, 1)

end

/-- Reads a text that consists of one tag. -/
def all (text : List Char) : Except (Stop Problem) Tag := do
  let ⟨result, rest, _⟩ ← tag text
  if skipBlank rest = [] then return result
  else throw ⟨.trailingInput, skipBlank rest⟩

end Reader

/-- The tag that a text spells. -/
def read (text : String) : Except SyntaxError Tag :=
  match Reader.all text.toList with
  | .ok tag => .ok tag
  | .error stop => .error ⟨text, stop.position text.toList, stop.problem⟩

end MoveBindings.Tag
