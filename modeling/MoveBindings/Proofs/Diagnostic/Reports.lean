import Mathlib.Algebra.GroupWithZero.Nat
import Mathlib.Data.List.Induction
import MoveBindings.Diagnostic.Log
import MoveBindings.Proofs.Dictionary
import MoveBindings.Proofs.Text.Sorted

/-!
# The reports of a log

The summary of a log counts the warnings about each construct, and the report lists
them. One loop over the warnings makes the numbers and another one the lists. After
any sequence of records and clears both tell the same constructs and numbers, and the
lists have every warning once. What is told of a single diagnostic is written out here
for each kind of finding.
-/

namespace MoveBindings

namespace Text

variable {α β : Type}

theorem sortedByKey_perm (entries : List (String × α)) : (sortedByKey entries).Perm entries :=
  List.mergeSort_perm ..

/-- Values can be changed before or after the entries are sorted. -/
theorem sortedByKey_map (f : String → α → β) (entries : List (String × α)) :
    sortedByKey (entries.map fun entry => (entry.1, f entry.1 entry.2)) =
      (sortedByKey entries).map fun entry => (entry.1, f entry.1 entry.2) := by
  symm
  exact List.map_mergeSort fun _ _ _ _ => rfl

/-- Different keys ascend strictly when they are sorted. -/
theorem keys_sortedByKey_pairwise {entries : List (String × α)}
    (distinct : (entries.map Prod.fst).Nodup) :
    ((sortedByKey entries).map Prod.fst).Pairwise (· < ·) := by
  have distinctSorted : ((sortedByKey entries).map Prod.fst).Nodup :=
    ((sortedByKey_perm entries).map Prod.fst).nodup_iff.mpr distinct
  have ascending : (sortedByKey entries).Pairwise fun a b => (!less b.1 a.1) = true := by
    refine List.pairwise_mergeSort ?_ ?_ entries
    · intro a b c first second
      simp only [less, Bool.not_eq_true', decide_eq_false_iff_not, not_lt] at first second ⊢
      exact le_trans first second
    · intro a b
      simp only [less, Bool.or_eq_true, Bool.not_eq_true', decide_eq_false_iff_not, not_lt]
      exact le_total a.1 b.1
  rw [List.pairwise_map]
  refine (ascending.and (List.pairwise_map.mp distinctSorted)).imp ?_
  rintro a b ⟨notAfter, different⟩
  simp only [less, Bool.not_eq_true', decide_eq_false_iff_not, not_lt] at notAfter
  exact lt_of_le_of_ne notAfter different

end Text

/-! ## Notices -/

/-- What reports tell of a diagnostic: whether it is a warning, the construct that it is about, and
its line. -/
structure Notice where
  isWarning : Bool
  construct : String
  line : String
deriving DecidableEq, Repr

namespace Diagnostic

/-- The place of a diagnostic in front of what it says, if there is one. -/
def placeText (location : String) : String := if location = "" then "" else location ++ ": "

/-- What reports tell of the diagnostics, by what was found. -/
def notice : Diagnostic → Notice
  | ⟨.endlessTraversal className, location⟩ =>
    ⟨true, "iterable-table", "[warning] " ++ placeText location ++ className ++
      ".fetchAll has no entry limit; a next-pointer cycle on chain will never terminate. (W001)"⟩
  | ⟨.untyped fieldName typeName, location⟩ =>
    ⟨true, "type-mapping", "[warning] " ++ placeText location ++ "Type " ++ typeName ++
      " of field \"" ++ fieldName ++ "\" is outside the known modules; using any. (W002)"⟩
  | ⟨.unindexedClass qualifiedName, location⟩ =>
    ⟨true, "index", "[warning] " ++ placeText location ++ "Module of " ++ qualifiedName ++
      " is not in the manifest; its accessor file is not wired into any index. (W003)"⟩
  | ⟨.renamed name identifier, location⟩ =>
    ⟨false, "rename", "[info] " ++ placeText location ++ "Identifier \"" ++ name ++
      "\" emitted as \"" ++ identifier ++ "\" (I001)"⟩

@[simp] theorem notice_isWarning (d : Diagnostic) : d.notice.isWarning = d.isWarning := by
  obtain ⟨finding, location⟩ := d
  cases finding <;> rfl

@[simp] theorem notice_construct (d : Diagnostic) : d.notice.construct = d.construct := by
  obtain ⟨finding, location⟩ := d
  cases finding <;> rfl

@[simp] theorem notice_line (d : Diagnostic) : d.notice.line = d.text := by
  obtain ⟨finding, location⟩ := d
  cases finding <;>
    simp [notice, text, placeText, Finding.severity, Severity.text, Finding.message, Finding.code,
      String.append_assoc]

end Diagnostic

namespace Log

/-! ## The two loops -/

theorem byConstruct_concat (found : List Diagnostic) (d : Diagnostic) :
    byConstruct (found ++ [d]) =
      (byConstruct found).update d.construct fun others => others.getD [] ++ [d] :=
  List.foldl_append

/-- The numbers that are counted are those of the diagnostics that are listed. -/
theorem tally_eq (found : List Diagnostic) :
    tally found = (byConstruct found).map fun _ group => group.length := by
  -- One step counts where the other one lists.
  let count : Dictionary String (List Diagnostic) → Dictionary String Nat :=
    Dictionary.map fun _ group => group.length
  change found.foldl _ (count .empty) = count (found.foldl _ .empty)
  refine List.foldl_hom count fun groups d => ?_
  refine (Dictionary.map_update (fun group => ?_) groups).symm
  cases group <;> simp

theorem keys_byConstruct_nodup (found : List Diagnostic) : (byConstruct found).keys.Nodup := by
  induction found using List.reverseRecOn with
  | nil => exact List.nodup_nil
  | append_singleton found d ih =>
    rw [byConstruct_concat]
    exact Dictionary.keys_update_nodup ih ..

/-- Every diagnostic is listed once. -/
theorem flatMap_byConstruct_perm (found : List Diagnostic) :
    ((byConstruct found).entries.flatMap Prod.snd).Perm found := by
  induction found using List.reverseRecOn with
  | nil => exact .refl _
  | append_singleton found d ih =>
    rw [byConstruct_concat]
    exact (Dictionary.flatMap_update_perm ..).trans (ih.append_right [d])

/-- The diagnostics about one construct are listed in order. -/
theorem find?_byConstruct (found : List Diagnostic) (construct : String) :
    (byConstruct found).find? construct =
      match found.filter (·.construct == construct) with
      | [] => none
      | group => some group := by
  induction found using List.reverseRecOn with
  | nil => rfl
  | append_singleton found d ih =>
    rw [byConstruct_concat, Dictionary.find?_update, List.filter_append]
    by_cases here : d.construct = construct
    · rw [if_pos here, here, ih]
      cases found.filter (·.construct == construct) <;> simp [here]
    · rw [if_neg here, ih]
      simp [here]

/-! ## Groups and counts -/

variable {log : Log}

/-- The summary counts what the report lists. -/
theorem counts_eq (log : Log) :
    log.counts = log.groups.map fun group => (group.1, group.2.length) := by
  rw [counts, tally_eq]
  exact Text.sortedByKey_map (fun _ (group : List Diagnostic) => group.length) _

theorem counts_ascending (log : Log) : (log.counts.map Prod.fst).Pairwise (· < ·) := by
  have distinct : (tally log.warnings).keys.Nodup := by
    rw [tally_eq, Dictionary.keys_map]
    exact keys_byConstruct_nodup log.warnings
  exact Text.keys_sortedByKey_pairwise distinct

/-- A group has the warnings about its construct, of which there are some. -/
theorem mem_groups {construct : String} {group : List Diagnostic}
    (member : (construct, group) ∈ log.groups) :
    group = log.warnings.filter (·.construct == construct) ∧ group ≠ [] := by
  have entered := (Text.sortedByKey_perm _).mem_iff.mp member
  have found := Dictionary.find?_of_mem_entries (keys_byConstruct_nodup log.warnings) entered
  rw [find?_byConstruct] at found
  split at found
  · cases found
  · next some =>
    cases found
    exact ⟨rfl, some⟩

/-- Every warning is in one group. -/
theorem flatMap_groups_perm (log : Log) : (log.groups.flatMap Prod.snd).Perm log.warnings :=
  ((Text.sortedByKey_perm _).flatMap_right Prod.snd).trans
    (flatMap_byConstruct_perm log.warnings)

/-- The groups are the constructs that are counted, each with the warnings about it. -/
theorem groups_eq (log : Log) :
    log.groups = log.counts.map fun count =>
      (count.1, log.warnings.filter (·.construct == count.1)) := by
  rw [counts_eq, List.map_map]
  conv => lhs; rw [← List.map_id log.groups]
  refine List.map_congr_left ?_
  rintro ⟨construct, group⟩ member
  exact Prod.ext rfl (mem_groups member).1

/-- The counts add up to the number of warnings. -/
theorem sum_counts (log : Log) : (log.counts.map Prod.snd).sum = log.warnings.length := by
  rw [counts_eq, List.map_map, ← (flatMap_groups_perm log).length_eq, List.length_flatMap]
  rfl

theorem mem_counts {construct : String} {count : Nat} (member : (construct, count) ∈ log.counts) :
    0 < count ∧ count = log.warnings.countP (·.construct == construct) := by
  rw [counts_eq] at member
  obtain ⟨⟨_, group⟩, found, same⟩ := List.mem_map.mp member
  cases same
  obtain ⟨listed, some⟩ := mem_groups found
  rw [List.countP_eq_length_filter, ← listed]
  exact ⟨List.length_pos_iff.mpr some, rfl⟩

/-! ## Histories -/

/-- What can be done to a log. -/
inductive Call where
  | record (d : Diagnostic)
  | clear
deriving DecidableEq, Repr

/-- A log after a call. -/
def call (log : Log) : Call → Log
  | .record d => log.add d
  | .clear => log.clear

/-- A log after several calls. -/
def run (log : Log) (calls : List Call) : Log := calls.foldl call log

/-- What was recorded and not cleared later. -/
def Call.remaining : List Call → List Diagnostic
  | [] => []
  | .clear :: later => remaining later
  | .record d :: later => if .clear ∈ later then remaining later else d :: remaining later

@[simp] theorem run_cons (log : Log) (first : Call) (later : List Call) :
    log.run (first :: later) = (log.call first).run later := rfl

theorem verbose_run (log : Log) (calls : List Call) : (log.run calls).verbose = log.verbose := by
  induction calls generalizing log with
  | nil => rfl
  | cons first later ih =>
    rw [run_cons, ih]
    cases first <;> rfl

/-- A log has what was recorded, behind what it had before if nothing was cleared. -/
theorem entries_run (log : Log) (calls : List Call) :
    (log.run calls).entries =
      (if .clear ∈ calls then [] else log.entries) ++ Call.remaining calls := by
  induction calls generalizing log with
  | nil => simp [run, Call.remaining]
  | cons first later ih =>
    rw [run_cons, ih]
    cases first with
    | clear => simp [call, clear, Call.remaining]
    | record d =>
      by_cases cleared : .clear ∈ later
      · simp [Call.remaining, cleared]
      · simp [call, add, Call.remaining, cleared]

/-- A log that is cleared goes on like a fresh one. -/
theorem run_append_clear (log : Log) (calls later : List Call) :
    log.run (calls ++ .clear :: later) = { log with entries := [] }.run later := by
  have cleared : (log.run calls).clear = { log with entries := [] } := by
    rw [clear, verbose_run]
  rw [run, List.foldl_append, ← run, ← run, run_cons, ← cleared]
  rfl

/-! ## What is told -/

/-- The lines about a construct that is counted, in a verbose report with the warnings about it. -/
def linesAbout (verbose : Bool) (warnings : List Diagnostic) (count : String × Nat) :
    List String :=
  ("  " ++ count.1 ++ ": " ++ toString count.2 ++ " occurrence(s)") ::
    if verbose then
      (warnings.filter (·.notice.construct == count.1)).map fun d => "    " ++ d.notice.line
    else []

/-- The lines of a report. -/
def linesOf (verbose : Bool) (warnings infos : List Diagnostic) (counts : List (String × Nat)) :
    List String :=
  (if warnings = [] then []
    else "" :: ("Transpiler warnings (" ++ toString warnings.length ++ "):") ::
      counts.flatMap (linesAbout verbose warnings)) ++
  if verbose = true ∧ infos ≠ [] then
    "" :: ("Transpiler info (" ++ toString infos.length ++ "):") ::
      infos.map fun d => "  " ++ d.notice.line
  else []

/-- A summary and a report on warnings and informations, both of which tell the same counts. -/
structure Tells (verbose : Bool) (warnings infos : List Diagnostic) (counts : List (String × Nat))
    (summary report : String) : Prop where
  ascending : (counts.map Prod.fst).Pairwise (· < ·)
  counted : ∀ count ∈ counts,
    0 < count.2 ∧ count.2 = warnings.countP (·.notice.construct == count.1)
  total : (counts.map Prod.snd).sum = warnings.length
  /-- The warnings about one construct after another are all warnings, once each. -/
  complete :
    (counts.flatMap fun count => warnings.filter (·.notice.construct == count.1)).Perm warnings
  summary_eq : summary =
    if warnings = [] then "No transpiler warnings."
    else "Transpiler warnings: " ++
      ", ".intercalate (counts.map fun count => toString count.2 ++ " " ++ count.1)
  none_iff : summary = "No transpiler warnings." ↔ warnings.length = 0
  report_eq : report = String.join ((linesOf verbose warnings infos counts).map (· ++ "\n"))
  silent : verbose = false → warnings = [] → report = ""

theorem summary_eq_none_iff (log : Log) :
    log.summary = "No transpiler warnings." ↔ log.warnings = [] := by
  rw [summary]
  split
  · next none => exact iff_of_true rfl (List.isEmpty_iff.mp none)
  · next some =>
    refine iff_of_false (fun same => ?_) fun none => some (List.isEmpty_iff.mpr none)
    have first := congrArg (fun text => text.toList.head?) same
    simp at first

theorem flatMap_groupLines (log : Log) :
    log.groups.flatMap log.groupLines =
      log.counts.flatMap (linesAbout log.verbose log.warnings) := by
  rw [groups_eq, List.flatMap_map]
  refine List.flatMap_congr ?_
  rintro ⟨construct, count⟩ member
  have size := (mem_counts member).2
  rw [List.countP_eq_length_filter] at size
  simp only [groupLines, linesAbout, size, Diagnostic.notice_construct, Diagnostic.notice_line]

theorem report_eq (log : Log) :
    log.report =
      String.join ((linesOf log.verbose log.warnings log.infos log.counts).map (· ++ "\n")) := by
  have warned : log.warningLines =
      if log.warnings = [] then []
      else "" :: ("Transpiler warnings (" ++ toString log.warnings.length ++ "):") ::
        log.counts.flatMap (linesAbout log.verbose log.warnings) := by
    rw [warningLines, flatMap_groupLines]
    simp only [List.isEmpty_iff]
    rfl
  have informed : log.infoLines =
      if log.verbose = true ∧ log.infos ≠ [] then
        "" :: ("Transpiler info (" ++ toString log.infos.length ++ "):") ::
          log.infos.map fun d => "  " ++ d.text
      else [] := by
    rw [infoLines]
    simp only [Bool.and_eq_true, Bool.not_eq_true', List.isEmpty_eq_false_iff]
    rfl
  simp only [report, warned, informed, linesOf, Diagnostic.notice_line]

theorem tells (log : Log) :
    Tells log.verbose log.warnings log.infos log.counts log.summary log.report where
  ascending := counts_ascending log
  counted _ member := by
    simp only [Diagnostic.notice_construct]
    exact mem_counts member
  total := sum_counts log
  complete := by
    have grouped := flatMap_groups_perm log
    rw [groups_eq, List.flatMap_map] at grouped
    simpa only [Diagnostic.notice_construct] using grouped
  summary_eq := by
    rw [summary]
    simp only [List.isEmpty_iff]
  none_iff := by rw [summary_eq_none_iff, List.length_eq_zero_iff]
  report_eq := report_eq log
  silent quiet none := by simp [report_eq, linesOf, quiet, none]

/-- The reports of a log agree and lose nothing. After any calls the summary and the report of a log
tell the same counts, in ascending order of the constructs, of the warnings that were recorded since
the last clear. A verbose report has each of these warnings once, under its construct and in order,
and each information. After a clear a log goes on like a fresh one. -/
theorem reports_agree (verbose : Bool) (calls : List Call) :
    (∃ counts, Tells verbose ((Call.remaining calls).filter (·.notice.isWarning))
      ((Call.remaining calls).filter (!·.notice.isWarning)) counts
      (run { verbose := verbose } calls).summary (run { verbose := verbose } calls).report) ∧
    ∀ later : List Call,
      run { verbose := verbose } (calls ++ .clear :: later) = run { verbose := verbose } later := by
  refine ⟨⟨(run { verbose := verbose } calls).counts, ?_⟩, run_append_clear _ calls⟩
  have remaining : (run { verbose := verbose } calls).entries = Call.remaining calls := by
    rw [entries_run]
    simp
  rw [← remaining]
  have told := tells (run { verbose := verbose } calls)
  rw [verbose_run] at told
  simp only [Diagnostic.notice_isWarning]
  exact told

/-- A verbose report on one warning and one information, recorded after others were cleared. -/
example :
    (run { verbose := true }
      [.record ⟨.untyped "items" "0x3::Bag::Bag", "Shop/Market.tables.ts"⟩, .clear,
        .record ⟨.renamed "new" "new__", ""⟩,
        .record ⟨.endlessTraversal "TypedIterableTable",
          "Std/IterableTable.accessors.ts"⟩]).report =
      "\nTranspiler warnings (1):\n  iterable-table: 1 occurrence(s)\n" ++
        "    [warning] Std/IterableTable.accessors.ts: TypedIterableTable.fetchAll has no " ++
        "entry limit; a next-pointer cycle on chain will never terminate. (W001)\n" ++
        "\nTranspiler info (1):\n  [info] Identifier \"new\" emitted as \"new__\" (I001)\n" := by
  decide +kernel

end Log

end MoveBindings
