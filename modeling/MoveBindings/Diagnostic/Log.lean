import MoveBindings.Diagnostic.Basic
import MoveBindings.Dictionary
import MoveBindings.Text.Ordering

/-!
# The log of diagnostics

A log keeps diagnostics in the order in which they were found. Its reports
group the warnings by construct, in ascending order of the construct's name; a
verbose log also lists every warning and every information.
-/

namespace MoveBindings

/-- Diagnostics in the order in which they were found. -/
structure Log where
  verbose : Bool := false
  entries : List Diagnostic := []

namespace Log

/-- A log with more diagnostics after its own. -/
def append (log : Log) (found : List Diagnostic) : Log :=
  { log with entries := log.entries ++ found }

/-- A log with one more diagnostic. -/
def add (log : Log) (found : Diagnostic) : Log := log.append [found]

/-- A log without its diagnostics. -/
def clear (log : Log) : Log := { log with entries := [] }

/-- The warnings of a log, in order. -/
def warnings (log : Log) : List Diagnostic := log.entries.filter Diagnostic.isWarning

/-- The diagnostics of a log that are no warnings, in order. -/
def infos (log : Log) : List Diagnostic := log.entries.filter fun d => !d.isWarning

/-- Diagnostics by construct. Each is put behind those about the same construct. -/
def byConstruct (found : List Diagnostic) : Dictionary String (List Diagnostic) :=
  found.foldl (fun groups d => groups.update d.construct fun others => others.getD [] ++ [d]) .empty

/-- The numbers of diagnostics by construct, counted one by one. -/
def tally (found : List Diagnostic) : Dictionary String Nat :=
  found.foldl (fun counts d => counts.update d.construct fun count => count.getD 0 + 1) .empty

/-- The constructs that warnings are about, in ascending order, each with its warnings. -/
def groups (log : Log) : List (String × List Diagnostic) :=
  Text.sortedByKey (byConstruct log.warnings).entries

/-- How many warnings there are about each construct, in ascending order of the constructs. -/
def counts (log : Log) : List (String × Nat) := Text.sortedByKey (tally log.warnings).entries

/-- One line about all warnings. -/
def summary (log : Log) : String :=
  if log.warnings.isEmpty then "No transpiler warnings."
  else
    let parts := log.counts.map fun (construct, count) => toString count ++ " " ++ construct
    "Transpiler warnings: " ++ ", ".intercalate parts

/-- The lines about one construct and its warnings. -/
def groupLines (log : Log) : String × List Diagnostic → List String
  | (construct, found) =>
    ("  " ++ construct ++ ": " ++ toString found.length ++ " occurrence(s)") ::
      (if log.verbose then found.map fun d => "    " ++ d.text else [])

/-- The lines about warnings, if there are any. -/
def warningLines (log : Log) : List String :=
  if log.warnings.isEmpty then []
  else
    ["", "Transpiler warnings (" ++ toString log.warnings.length ++ "):"] ++
      log.groups.flatMap log.groupLines

/-- The lines about renamed identifiers, which only a verbose log reports. -/
def infoLines (log : Log) : List String :=
  if log.verbose && !log.infos.isEmpty then
    ["", "Transpiler info (" ++ toString log.infos.length ++ "):"] ++
      log.infos.map fun d => "  " ++ d.text
  else []

/-- The report of a log, each line ended by a newline. -/
def report (log : Log) : String :=
  String.join ((log.warningLines ++ log.infoLines).map (· ++ "\n"))

@[simp] theorem warnings_clear (log : Log) : log.clear.warnings = [] := rfl

@[simp] theorem entries_append (log : Log) (found : List Diagnostic) :
    (log.append found).entries = log.entries ++ found := rfl

end Log

end MoveBindings
