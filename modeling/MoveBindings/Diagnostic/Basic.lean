/-!
# Diagnostics

Generation goes on where the generated code is less than what one would wish
for, and notes it: a traversal without a limit, a type that becomes `any`, a
container's class that no index mentions. It also notes every identifier that
had to be renamed.
-/

namespace MoveBindings

/-- How serious a diagnostic is. -/
inductive Severity where
  | warning
  | info
deriving DecidableEq, Repr

/-- The name of a severity. -/
def Severity.text : Severity → String
  | .warning => "warning"
  | .info => "info"

/-- What a diagnostic is about. -/
inductive Finding where
  | endlessTraversal (className : String)
  | untyped (fieldName typeName : String)
  | unindexedClass (qualifiedName : String)
  | renamed (name identifier : String)
deriving DecidableEq, Repr

namespace Finding

/-- Renamed identifiers are information, everything else is a warning. -/
def severity : Finding → Severity
  | .renamed _ _ => .info
  | _ => .warning

/-- The code of a finding. -/
def code : Finding → String
  | .endlessTraversal _ => "W001"
  | .untyped _ _ => "W002"
  | .unindexedClass _ => "W003"
  | .renamed _ _ => "I001"

/-- What kind of construct a finding is about. -/
def construct : Finding → String
  | .endlessTraversal _ => "iterable-table"
  | .untyped _ _ => "type-mapping"
  | .unindexedClass _ => "index"
  | .renamed _ _ => "rename"

/-- What a finding says. -/
def message : Finding → String
  | .endlessTraversal className =>
    className ++ ".fetchAll has no entry limit; " ++
      "a next-pointer cycle on chain will never terminate."
  | .untyped fieldName typeName =>
    "Type " ++ typeName ++ " of field \"" ++ fieldName ++
      "\" is outside the known modules; using any."
  | .unindexedClass qualifiedName =>
    "Module of " ++ qualifiedName ++
      " is not in the manifest; its accessor file is not wired into any index."
  | .renamed name identifier =>
    "Identifier \"" ++ name ++ "\" emitted as \"" ++ identifier ++ "\""

end Finding

/-- A finding at a place, usually a generated file. The place may be empty. -/
structure Diagnostic where
  finding : Finding
  location : String := ""
deriving DecidableEq, Repr

namespace Diagnostic

/-- Whether a diagnostic is a warning. -/
def isWarning (d : Diagnostic) : Bool := d.finding.severity == .warning

/-- The kind of construct that a diagnostic is about. -/
def construct (d : Diagnostic) : String := d.finding.construct

/-- A diagnostic as a line of a report. -/
def text (d : Diagnostic) : String :=
  "[" ++ d.finding.severity.text ++ "] " ++
    (if d.location = "" then "" else d.location ++ ": ") ++
    d.finding.message ++ " (" ++ d.finding.code ++ ")"

end Diagnostic

end MoveBindings
