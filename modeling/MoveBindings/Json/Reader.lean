import MoveBindings.Json.Basic
import MoveBindings.Text.Reading

/-!
# Reading JSON

The reader takes the JSON grammar, and the names `NaN`, `Infinity` and
`-Infinity` as numbers besides. It reports the first problem with its place.
Of members with one name the last value counts, at the place of the first.
-/

namespace MoveBindings.Json

open Text

/-- What can be wrong with a JSON text. -/
inductive Problem where
  | byteOrderMark
  | valueExpected
  | nameExpected
  | colonExpected
  | commaExpected
  | extraData
  | unterminatedString
  | controlCharacter
  | invalidEscape
  | invalidUnicodeEscape
deriving DecidableEq, Repr

/-- The wording of a problem. -/
def Problem.text : Problem → String
  | .byteOrderMark => "Unexpected UTF-8 BOM (decode using utf-8-sig)"
  | .valueExpected => "Expecting value"
  | .nameExpected => "Expecting property name enclosed in double quotes"
  | .colonExpected => "Expecting ':' delimiter"
  | .commaExpected => "Expecting ',' delimiter"
  | .extraData => "Extra data"
  | .unterminatedString => "Unterminated string starting at"
  | .controlCharacter => "Invalid control character at"
  | .invalidEscape => "Invalid \\escape"
  | .invalidUnicodeEscape => "Invalid \\uXXXX escape"

/-- A problem with its place: lines and columns count from one, positions from zero. -/
structure SyntaxError where
  problem : Problem
  line : Nat
  column : Nat
  position : Nat
deriving DecidableEq, Repr

namespace SyntaxError

/-- A problem at a position of a text. -/
def ofPosition (text : List Char) (problem : Problem) (position : Nat) : SyntaxError :=
  let before := text.take position
  { problem, position
    line := before.count '\n' + 1
    column := (before.reverse.takeWhile (· != '\n')).length + 1 }

/-- The report of an error. -/
def message (e : SyntaxError) : String :=
  s!"{e.problem.text}: line {e.line} column {e.column} (char {e.position})"

end SyntaxError

namespace Reader

/-- The value of a hexadecimal digit. -/
def hexValue? (c : Char) : Option Nat :=
  if c.isDigit then some (c.toNat - '0'.toNat)
  else if 'a' ≤ c ∧ c ≤ 'f' then some (c.toNat - 'a'.toNat + 10)
  else if 'A' ≤ c ∧ c ≤ 'F' then some (c.toNat - 'A'.toNat + 10)
  else none

/-- The value of four hexadecimal digits. -/
def codeUnit? (a b c d : Char) : Option Nat := do
  let a ← hexValue? a
  let b ← hexValue? b
  let c ← hexValue? c
  let d ← hexValue? d
  return ((a * 16 + b) * 16 + c) * 16 + d

/-- The first half of a surrogate pair. -/
def isHighSurrogate (unit : Nat) : Bool := 0xd800 ≤ unit && unit < 0xdc00

/-- The second half of a surrogate pair. -/
def isLowSurrogate (unit : Nat) : Bool := 0xdc00 ≤ unit && unit < 0xe000

/-- A character by its code; half a surrogate pair becomes the replacement character. -/
def charOfCode (code : Nat) : Char :=
  if code.isValidChar then Char.ofNat code else '\ufffd'

/-- The character of a surrogate pair. -/
def joinSurrogates (high low : Nat) : Char :=
  charOfCode (0x10000 + (high - 0xd800) * 0x400 + (low - 0xdc00))

/-- The meaning of a one-letter escape. -/
def simpleEscape? : Char → Option Char
  | '"' => some '"'
  | '\\' => some '\\'
  | '/' => some '/'
  | 'b' => some '\x08'
  | 'f' => some '\x0c'
  | 'n' => some '\n'
  | 'r' => some '\r'
  | 't' => some '\t'
  | _ => none

/-- The second half of a surrogate pair, written as an escape with something after it. -/
def lowSurrogate? : (text : List Char) → Option (Reading Nat text)
  | '\\' :: 'u' :: a :: b :: c :: d :: next :: rest =>
    match codeUnit? a b c d with
    | some unit => if isLowSurrogate unit then some ⟨unit, next :: rest, by simp⟩ else none
    | none => none
  | _ => none

/-- The character of the four digits after `\u`, which must be followed by something. Two escapes
that form a surrogate pair are one character. -/
def unicodeEscape? : (text : List Char) → Option (Reading Char text)
  | a :: b :: c :: d :: next :: rest =>
    match codeUnit? a b c d with
    | none => none
    | some unit =>
      match if isHighSurrogate unit then lowSurrogate? (next :: rest) else none with
      | some ⟨low, after, h⟩ => some ⟨joinSurrogates unit low, after, by simp at h ⊢; omega⟩
      | none => some ⟨charOfCode unit, next :: rest, by simp⟩
  | _ => none

/-- The characters of a string up to its closing quote. `opening` is the text from the opening
quote on. -/
def readChars (opening : List Char) : (text : List Char) →
    Except (Stop Problem) (Reading (List Char) text)
  | [] => .error ⟨.unterminatedString, opening⟩
  | '"' :: rest => .ok ⟨[], rest, by simp⟩
  | ['\\'] => .error ⟨.unterminatedString, opening⟩
  | '\\' :: 'u' :: rest =>
    match unicodeEscape? rest with
    | none => .error ⟨.invalidUnicodeEscape, 'u' :: rest⟩
    | some ⟨c, after, h⟩ =>
      (readChars opening after).map fun r => (r.map (c :: ·)).widen (by simp; omega)
  | '\\' :: c :: rest =>
    match simpleEscape? c with
    | none => .error ⟨.invalidEscape, '\\' :: c :: rest⟩
    | some meaning =>
      (readChars opening rest).map fun r => (r.map (meaning :: ·)).widen (by simp; omega)
  | c :: rest =>
    if c.toNat < 0x20 then .error ⟨.controlCharacter, c :: rest⟩
    else (readChars opening rest).map fun r => (r.map (c :: ·)).widen (by simp)
termination_by text => text.length

/-- A run of decimal digits, with what follows it. -/
def digits (text : List Char) : List Char × List Char := text.span Char.isDigit

/-- The value of decimal digits. -/
def digitsValue (run : List Char) : Nat :=
  run.foldl (fun n c => n * 10 + (c.toNat - '0'.toNat)) 0

/-- The digits after a decimal point, if there are any; without them the point is left alone. -/
def fraction (text : List Char) : List Char × List Char :=
  match text with
  | '.' :: rest => if (digits rest).1.isEmpty then ([], text) else digits rest
  | _ => ([], text)

/-- The sign and digits after an exponent mark; without digits the mark is left alone. -/
def exponent (text : List Char) : Option Int × List Char :=
  match text with
  | mark :: rest =>
    if mark = 'e' ∨ mark = 'E' then
      let signed : Bool × List Char := match rest with
        | '-' :: rest => (true, rest)
        | '+' :: rest => (false, rest)
        | rest => (false, rest)
      let (run, after) := digits signed.2
      if run.isEmpty then (none, text)
      else
        let value : Int := digitsValue run
        (some (if signed.1 then -value else value), after)
    else (none, text)
  | [] => (none, [])

/-- What follows the digits of the whole part of a number: either a single zero or digits that do
not start with one. -/
def whole? (text : List Char) : Option (List Char × List Char) :=
  match text with
  | '0' :: rest => some (['0'], rest)
  | _ => if (digits text).1.isEmpty then none else some (digits text)

/-- A number, as long as it goes. -/
def number? (text : List Char) : Option (Json × List Char) := do
  let (negative, unsigned) := match text with
    | '-' :: rest => (true, rest)
    | rest => (false, rest)
  let (whole, afterWhole) ← whole? unsigned
  let (fraction, afterFraction) := fraction afterWhole
  let (power, rest) := exponent afterFraction
  if fraction.isEmpty && power.isNone then
    let value : Int := digitsValue whole
    return (.integer (if negative then -value else value), rest)
  else
    let scale := power.getD 0 - (fraction.length : Int)
    return (.real (.ofDecimal negative (digitsValue (whole ++ fraction)) scale), rest)

/-- The names that stand for values. -/
def literals : List (List Char × Json) :=
  [ ("null".toList, .null), ("true".toList, .bool true), ("false".toList, .bool false),
    ("NaN".toList, .real .nan), ("Infinity".toList, .real (.infinite false)),
    ("-Infinity".toList, .real (.infinite true)) ]

/-- A literal or a number. -/
def scalar? (text : List Char) : Option (Json × List Char) :=
  let literal := literals.findSome? fun (name, value) =>
    if name.isPrefixOf text then some (value, text.drop name.length) else none
  literal <|> number? text

mutual

/-- Reads a value at the start of a text. -/
def readValue (text : List Char) : Except (Stop Problem) (Reading Json text) :=
  match text with
  | '"' :: rest =>
    (readChars ('"' :: rest) rest).map fun r =>
      (r.map fun chars => .string (String.ofList chars)).widen (by simp)
  | '[' :: rest =>
    match firstNonBlank? rest with
    | some ⟨']', after, h⟩ => .ok ⟨.array [], after, by simp; omega⟩
    | _ =>
      have := length_skipBlank_le rest
      (readItems (skipBlank rest)).map fun r => (r.map .array).widen (by simp; omega)
  | '\x7b' :: rest =>
    match firstNonBlank? rest with
    | some ⟨'\x7d', after, h⟩ => .ok ⟨.object [], after, by simp; omega⟩
    | _ =>
      have := length_skipBlank_le rest
      (readMembers (skipBlank rest)).map fun r =>
        (r.map fun members => .object (Dictionary.ofList members).entries).widen (by simp; omega)
  | text =>
    match scalar? text with
    | some (value, rest) =>
      if h : rest.length < text.length then .ok ⟨value, rest, h⟩
      else .error ⟨.valueExpected, text⟩
    | none => .error ⟨.valueExpected, text⟩
termination_by (text.length, 0)

/-- Reads the items of an array from its first item to its closing bracket. -/
def readItems (text : List Char) : Except (Stop Problem) (Reading (List Json) text) :=
  match readValue text with
  | .error stop => .error stop
  | .ok ⟨item, afterItem, h⟩ =>
    match firstNonBlank? afterItem with
    | some ⟨']', rest, h'⟩ => .ok ⟨[item], rest, by omega⟩
    | some ⟨',', rest, h'⟩ =>
      have := length_skipBlank_le rest
      (readItems (skipBlank rest)).map fun r => (r.map (item :: ·)).widen (by omega)
    | _ => .error ⟨.commaExpected, skipBlank afterItem⟩
termination_by (text.length, 1)

/-- Reads the members of an object from the first name to its closing brace. -/
def readMembers (text : List Char) :
    Except (Stop Problem) (Reading (List (String × Json)) text) :=
  match text with
  | '"' :: afterQuote =>
    match readChars ('"' :: afterQuote) afterQuote with
    | .error stop => .error stop
    | .ok ⟨name, afterName, h⟩ =>
      match firstNonBlank? afterName with
      | some ⟨':', afterColon, h'⟩ =>
        have := length_skipBlank_le afterColon
        match readValue (skipBlank afterColon) with
        | .error stop => .error stop
        | .ok ⟨value, afterValue, h''⟩ =>
          match firstNonBlank? afterValue with
          | some ⟨'\x7d', rest, h'''⟩ =>
            .ok ⟨[(String.ofList name, value)], rest, by simp; omega⟩
          | some ⟨',', rest, h'''⟩ =>
            have := length_skipBlank_le rest
            (readMembers (skipBlank rest)).map fun r =>
              (r.map ((String.ofList name, value) :: ·)).widen (by simp; omega)
          | _ => .error ⟨.commaExpected, skipBlank afterValue⟩
      | _ => .error ⟨.colonExpected, skipBlank afterName⟩
  | text => .error ⟨.nameExpected, text⟩
termination_by (text.length, 0)

end

/-- Reads a text that consists of one value. -/
def readAll (text : List Char) : Except (Stop Problem) Json :=
  if text.head? = some '\ufeff' then .error ⟨.byteOrderMark, text⟩
  else match readValue (skipBlank text) with
    | .error stop => .error stop
    | .ok ⟨value, rest, _⟩ =>
      if skipBlank rest = [] then .ok value else .error ⟨.extraData, skipBlank rest⟩

end Reader

/-- The value of a JSON text. -/
def read (text : String) : Except SyntaxError Json :=
  match Reader.readAll text.toList with
  | .ok value => .ok value
  | .error stop => .error (.ofPosition text.toList stop.problem (stop.position text.toList))

end MoveBindings.Json
