import MoveBindings.Json.Display
import MoveBindings.Json.Reader
import MoveBindings.Settings.Basic
import MoveBindings.Text.Ordering
import MoveBindings.Text.Search

/-!
# Reading settings

A configuration file holds a JSON object. An entry with a known key and a value
of the right type replaces one setting; an entry with a known key and a value of
another type is reported and ignored; all other entries are ignored. A file that
is missing replaces nothing, and so does one that cannot be used, which is
reported.
-/

namespace MoveBindings

/-- The values that a setting accepts. -/
inductive SettingType where
  | words
  | positive
  | text
deriving DecidableEq, Repr

namespace SettingType

/-- What a setting accepts, as warnings put it. -/
def description : SettingType → String
  | .words => "a list of strings"
  | .positive => "a positive integer"
  | .text => "a string"

/-- Whether a setting accepts a value. -/
def accepts : SettingType → Json → Bool
  | .words, .array items => items.all Json.isString
  | .positive, .integer value => 1 ≤ value
  | .text, .string _ => true
  | _, _ => false

end SettingType

/-- The keys whose value is a text. -/
def textKeys : List String :=
  ["keywordSuffix", "tempMarker", "tempPrefix", "shadowSeparator", "shadowReplacement",
    "runtimeModule", "clientModule", "stdPackage", "tableName", "iterableTableName"]

/-- What the setting of a key accepts. -/
def settingType? (key : String) : Option SettingType :=
  if key = "reservedWords" then some .words
  else if key = "maxIterableEntries" then some .positive
  else if key ∈ textKeys then some .text
  else none

/-- Something that is wrong with a configuration file. -/
inductive SettingsWarning where
  | unreadable (path : String) (error : Json.SyntaxError)
  | notAnObject (path : String) (value : Json)
  | wrongType (path key : String) (expected : SettingType) (value : Json)

/-- The line about something wrong with a configuration file. -/
def SettingsWarning.message : SettingsWarning → String
  | .unreadable path error => "Warning: Failed to parse " ++ path ++ ": " ++ error.message
  | .notAnObject path value =>
    "Warning: Ignoring " ++ path ++ ": expected a JSON object, got " ++ value.kindName
  | .wrongType path key expected value =>
    "Warning: Ignoring " ++ key ++ " in " ++ path ++ ": expected " ++ expected.description ++
      ", got " ++ value.display

namespace Overrides

/-- The value of an entry, if the setting of its key accepts it. -/
def accepted? (entries : List (String × Json)) (key : String) : Option Json := do
  let value ← Dictionary.findEntry? key entries
  let type ← settingType? key
  if type.accepts value then some value else none

/-- The text that entries give to a key. -/
def text? (entries : List (String × Json)) (key : String) : Option String :=
  (accepted? entries key).bind Json.text?

/-- The reserved words that entries give, in ascending order without repeats. -/
def reservedWords? (entries : List (String × Json)) : Option (List String) :=
  match accepted? entries "reservedWords" with
  | some (.array items) => some (Text.sorted (items.filterMap Json.text?))
  | _ => none

/-- The limit that entries give. -/
def limit? (entries : List (String × Json)) : Option Int :=
  match accepted? entries "maxIterableEntries" with
  | some (.integer value) => some value
  | _ => none

/-- The naming rules that entries give. A rule without an entry keeps its default; without any
entry about naming there are none. -/
def naming? (entries : List (String × Json)) : Option NamingRules :=
  let words := reservedWords? entries
  let suffix := text? entries "keywordSuffix"
  let marker := text? entries "tempMarker"
  let start := text? entries "tempPrefix"
  let separator := text? entries "shadowSeparator"
  let replacement := text? entries "shadowReplacement"
  let standard : NamingRules := {}
  if words.isSome || [suffix, marker, start, separator, replacement].any Option.isSome then
    some
      { reservedWords := words.getD standard.reservedWords
        keywordSuffix := suffix.getD standard.keywordSuffix
        tempMarker := marker.getD standard.tempMarker
        tempPrefix := start.getD standard.tempPrefix
        shadowSeparator := separator.getD standard.shadowSeparator
        shadowReplacement := replacement.getD standard.shadowReplacement }
  else none

/-- The settings that the entries of an object replace. -/
def ofEntries (entries : List (String × Json)) : Overrides where
  naming := naming? entries
  runtimeModule := text? entries "runtimeModule"
  clientModule := text? entries "clientModule"
  stdPackage := text? entries "stdPackage"
  tableName := text? entries "tableName"
  iterableTableName := text? entries "iterableTableName"
  maxIterableEntries := limit? entries

/-- The warnings about entries, in their order. -/
def warnings (path : String) (entries : List (String × Json)) : List SettingsWarning :=
  entries.filterMap fun (key, value) => do
    let type ← settingType? key
    if type.accepts value then none else some (.wrongType path key type value)

/-- The settings that a configuration value replaces, with the warnings about it. -/
def ofJson (path : String) : Json → Overrides × List SettingsWarning
  | .object entries => (ofEntries entries, warnings path entries)
  | value => ({}, [.notAnObject path value])

/-- The settings that the text of a configuration file replaces, with the warnings about it.
There is no text when there is no file. -/
def ofText (path : String) : Option String → Overrides × List SettingsWarning
  | none => ({}, [])
  | some text =>
    match Json.read (String.ofList (Text.unifyLineEnds text.toList)) with
    | .ok value => ofJson path value
    | .error error => ({}, [.unreadable path error])

end Overrides

end MoveBindings
