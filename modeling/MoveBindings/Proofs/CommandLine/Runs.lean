import Mathlib
import MoveBindings.Proofs.CommandLine.Deliveries

/-!
# Runs do everything or nothing

A run that has no files changes nothing. A run that has files prints all of them
and changes nothing, or it writes all of them. What then lies at a place is the
last text whose path leads there; and when no generated path leaves the directory
of sources, every file is read back as it was generated.
-/

namespace MoveBindings.CommandLine

open FileTree

variable {i : Invocation} {tree after : FileTree} {files : Dictionary String String}
  {entries : List (String × String)}

/-! ## Writing -/

/-- When no file fails, a line tells of each of them. -/
theorem writeFiles_of_writes (writes : tree.Writes entries after) :
    writeFiles tree entries =
      { stdout := String.join (entries.map fun entry => writtenLine entry.1), tree := after } := by
  induction writes with
  | nil tree => rfl
  | @cons before next after path content rest first _ ih =>
    rw [writeFiles, first]
    simp only [ih, List.map_cons, String.join_cons]

/-- Otherwise the run is broken off. -/
theorem exit_writeFiles_of_not_writes (fails : ∀ after, ¬tree.Writes entries after) :
    ∃ error, (writeFiles tree entries).exit = .error (.access error) := by
  induction entries generalizing tree with
  | nil => exact absurd (.nil tree) (fails tree)
  | cons entry rest ih =>
    obtain ⟨path, content⟩ := entry
    cases first : tree.write path content with
    | error error =>
      rw [writeFiles, first]
      exact ⟨error, rfl⟩
    | ok next =>
      obtain ⟨error, later⟩ := ih fun after writes => fails after (.cons first writes)
      rw [writeFiles, first]
      exact ⟨error, later⟩

/-! ## Whole runs -/

/-- A run without files leaves the tree as it is, and reports why or is broken off. -/
theorem run_of_no_files {reason : NoFiles}
    (none : (i.generation tree).outcome = .error reason) :
    (i.run tree).tree = tree ∧
      ((i.run tree).exit = .ok 1 ∨ ∃ abort, (i.run tree).exit = .error abort) := by
  unfold Invocation.generation at none
  unfold Invocation.run
  simp only [none]
  cases reason with
  | reported message => exact ⟨rfl, .inl rfl⟩
  | aborted abort => exact ⟨rfl, .inr ⟨abort, rfl⟩⟩

theorem withReport_fields (t : Transcript) (log : Log) :
    (t.withReport log).stdout = t.stdout ∧ (t.withReport log).exit = t.exit ∧
      (t.withReport log).tree = t.tree := by
  unfold Transcript.withReport
  split <;> exact ⟨rfl, rfl, rfl⟩

/-- A run with files delivers them after the warnings about the settings. -/
theorem run_of_files (generated : (i.generation tree).outcome = .ok files) :
    (i.run tree).stdout =
        warningText (i.generation tree).warnings ++ (deliver i tree files).stdout ∧
      (i.run tree).exit = (deliver i tree files).exit ∧
      (i.run tree).tree = (deliver i tree files).tree := by
  obtain ⟨stdout, exit, left⟩ :=
    withReport_fields (deliver i tree files) (i.generation tree).log
  rw [← stdout, ← exit, ← left]
  unfold Invocation.generation at generated ⊢
  unfold Invocation.run
  simp only [generated, and_self]

/-- What comes to its end with files comes to a good end. -/
theorem exit_deliver (i : Invocation) (tree : FileTree) (files : Dictionary String String) :
    (deliver i tree files).exit = .ok 0 ∨
      ∃ error, (deliver i tree files).exit = .error (.access error) := by
  unfold deliver
  split
  · exact .inl rfl
  · by_cases writes : ∃ after, tree.Writes files.entries after
    · obtain ⟨after, writes⟩ := writes
      rw [writeFiles_of_writes writes]
      exact .inl rfl
    · exact .inr (exit_writeFiles_of_not_writes (not_exists.mp writes))

/-- Files that are written are all there, and no other file is changed. -/
theorem Invocation.Loads.holdsLast {warnings : List SettingsWarning} {project : Project}
    (loads : i.Loads tree warnings project) (made : project.outputs.1 = .ok files)
    (writes : tree.Writes files.entries after) :
    tree.HoldsLast files.entries after ∧
      ((∀ generated, project.generate.1 = .ok generated →
          ∀ file ∈ generated, (Path.ofString file.path).IsInner) →
        ∀ entry ∈ files.entries, after.read entry.1 = .ok entry.2) := by
  obtain ⟨directory, overrides, text, _, _, _, added⟩ := loads
  have options : project.options = i.projectOptions directory := by
    have extended := congrArg (fun result => result.2.options) added
    exact extended.symm
  have normal : project.options.outputDir.IsNormal := by
    rw [options]
    exact Path.isNormal_ofString directory
  obtain ⟨generated, produced, rfl⟩ := Project.exists_generate_of_outputs made
  have holds := writes.holdsLast fun entry member =>
    ProjectOptions.text_ofString_of_mem_outputs normal member
  refine ⟨holds, fun inner entry member => ?_⟩
  obtain ⟨place, located, _⟩ := holds.located entry member
  refine holds.read_of_alone member fun other otherMember same => ?_
  exact ProjectOptions.eq_of_locate_outputs normal (inner generated produced) member otherMember
    located (same.trans located)

/-! ## Manifests of one package -/

/-- A manifest of one package without modules. -/
def packageManifest (name : String) : String :=
  "\x7b\"packages\": [\x7b\"name\": \"" ++ name ++ "\"\x7d]\x7d"

/-- What such a manifest says. -/
def packageJson (name : String) : Json :=
  .object [("packages", .array [.object [("name", .string name)]])]

/-- A directory with such a manifest. -/
def packageTree (name : String) : FileTree := { files := ⟨[(["m.json"], packageManifest name)]⟩ }

/-- An invocation without the files of a package. -/
def plainInvocation : Invocation := { manifest := "m.json", noScaffold := true }

/-- The project of one package. -/
def packageProject (name : String) : Project :=
  ((plainInvocation.newProject "ts-output" {}).addManifest (packageJson name)).2

/-- The files of a project, if it can be generated. -/
def filesOf (project : Project) : Dictionary String String :=
  project.outputs.1.toOption.getD .empty

theorem outputs_eq_ok_filesOf {project : Project} (succeeds : project.outputs.1.isOk = true) :
    project.outputs.1 = .ok (filesOf project) := by
  obtain ⟨files, made⟩ := exists_of_isOk succeeds
  rw [filesOf, made]
  rfl

theorem writes_filesOf (succeeds : (writeFiles tree entries).exit.isOk = true) :
    tree.Writes entries (writeFiles tree entries).tree := by
  by_cases writes : ∃ after, tree.Writes entries after
  · obtain ⟨after, writes⟩ := writes
    rw [writeFiles_of_writes writes]
    exact writes
  · obtain ⟨error, broken⟩ := exit_writeFiles_of_not_writes (not_exists.mp writes)
    rw [broken] at succeeds
    cases succeeds

/-- The names of two packages: the one lies in the output directory, the other leads back to it. -/
def packageNames : List String := ["Shop", "../ts-output"]

/-- What the manifests of these packages say. -/
theorem read_packageManifest {name : String} (member : name ∈ packageNames) :
    Json.read (String.ofList (Text.unifyLineEnds (packageManifest name).toList)) =
      .ok (packageJson name) := by
  simp only [packageNames, List.mem_cons, List.not_mem_nil, or_false] at member
  rcases member with rfl | rfl
  · have spelled : String.ofList (Text.unifyLineEnds (packageManifest "Shop").toList) =
        "\x7b\"packages\": [\x7b\"name\": \"Shop\"\x7d]\x7d" := by decide +kernel
    rw [spelled]
    cbv
  · have spelled : String.ofList (Text.unifyLineEnds (packageManifest "../ts-output").toList) =
        "\x7b\"packages\": [\x7b\"name\": \"../ts-output\"\x7d]\x7d" := by decide +kernel
    rw [spelled]
    cbv

theorem loads_packageProject {name : String} (member : name ∈ packageNames) :
    plainInvocation.Loads (packageTree name) [] (packageProject name) := by
  have succeeds : ∀ name ∈ packageNames, ((plainInvocation.newProject "ts-output" {}).addManifest
      (packageJson name)).1.isOk = true := by decide +kernel
  obtain ⟨_, added⟩ := exists_of_isOk (succeeds name member)
  have same : (plainInvocation.newProject "ts-output" {}).addManifestText
      plainInvocation.manifest (packageManifest name) =
        (plainInvocation.newProject "ts-output" {}).addManifest (packageJson name) := by
    rw [Project.addManifestText, Catalog.addManifestText, read_packageManifest member]
    rfl
  exact ⟨"ts-output", {}, packageManifest name, rfl, rfl, rfl, same.trans (Prod.ext added rfl)⟩

theorem outputs_packageProject {name : String} (member : name ∈ packageNames) :
    (packageProject name).outputs.1 = .ok (filesOf (packageProject name)) := by
  have succeeds : ∀ name ∈ packageNames, (packageProject name).outputs.1.isOk = true := by
    decide +kernel
  exact outputs_eq_ok_filesOf (succeeds name member)

/-- The tree after the files of the project of one package are written. -/
def packageOutput (name : String) : FileTree :=
  (writeFiles (packageTree name) (filesOf (packageProject name)).entries).tree

theorem writes_packageProject {name : String} (member : name ∈ packageNames) :
    (packageTree name).Writes (filesOf (packageProject name)).entries (packageOutput name) := by
  have succeeds : ∀ name ∈ packageNames, (writeFiles (packageTree name)
      (filesOf (packageProject name)).entries).exit.isOk = true := by decide +kernel
  exact writes_filesOf (succeeds name member)

theorem parse_plain : parse ["m.json", "--no-scaffold"] = .ok plainInvocation := rfl

/-- The generated files of a package that lies below the output directory stay there. -/
theorem inner_packageProject {generated : List OutputFile}
    (produced : (packageProject "Shop").generate.1 = .ok generated) :
    ∀ file ∈ generated, (Path.ofString file.path).IsInner := by
  have inner : ∀ file ∈ (packageProject "Shop").generate.1.toOption.getD [],
      (Path.ofString file.path).IsInner := by decide +kernel
  rw [produced] at inner
  exact inner

/-! ## Everything or nothing -/

/-- A run has printed all files, after the warnings about the settings, and has changed nothing.
Each file is printed in its turn, with its path in a line of its own and then its text. -/
structure Transcript.PrintedAll (t : Transcript) (warnings : List SettingsWarning)
    (files : Dictionary String String) (before : FileTree) : Prop where
  exit : t.exit = .ok 0
  unchanged : t.tree = before
  stdout : t.stdout = String.join ((warnings.map SettingsWarning.message).map (· ++ "\n")) ++
    String.join (files.entries.map fun (path, content) =>
      "// ===== " ++ path ++ " =====\n" ++ content ++ "\n")

/-- A run has written all files, has told of each of them and has changed no other. -/
structure Transcript.WroteAll (t : Transcript) (warnings : List SettingsWarning)
    (files : Dictionary String String) (before : FileTree) : Prop where
  exit : t.exit = .ok 0
  holdsLast : before.HoldsLast files.entries t.tree
  unchanged : ∀ place, (∀ entry ∈ files.entries, t.tree.locate entry.1 ≠ .ok place) →
    t.tree.files.find? place = before.files.find? place
  stdout : t.stdout = String.join ((warnings.map SettingsWarning.message).map (· ++ "\n")) ++
    String.join (files.entries.map fun (path, _) => "Written: " ++ path ++ "\n")

/-- A run of accepted arguments does everything or nothing.

If no project can be loaded and generated, or the run ends with exit code 1, without an output
directory or in a failure of the project, then the tree is what it was. Otherwise a run that prints
has printed all files and nothing else. A run that writes has written all files, unless it is broken
off at one that cannot be written: every path leads to a file, each place has the last text whose
path leads there, and every other place has what it had. When no generated path is absolute or has a
double dot, each path has its own text. -/
theorem run_all_or_nothing {arguments : List String} (accepted : parse arguments = .ok i)
    (tree : FileTree) :
    ((∀ warnings project files, i.Loads tree warnings project → project.outputs.1 ≠ .ok files) →
      (run arguments tree).tree = tree ∧ ((run arguments tree).exit = .ok 1 ∨
        ∃ abort, (run arguments tree).exit = .error abort)) ∧
    ((run arguments tree).exit = .ok 1 ∨
        (run arguments tree).exit = .error .noOutputDirectory ∨
        (∃ failure, (run arguments tree).exit = .error (.failure failure)) →
      (run arguments tree).tree = tree) ∧
    ∀ warnings project files, i.Loads tree warnings project → project.outputs.1 = .ok files →
      (i.stdout = true → (run arguments tree).PrintedAll warnings files tree) ∧
      (i.stdout = false → ∀ after, tree.Writes files.entries after →
        (run arguments tree).tree = after ∧ (run arguments tree).WroteAll warnings files tree ∧
          ((∀ generated, project.generate.1 = .ok generated →
              ∀ file ∈ generated, (Path.ofString file.path).IsInner) →
            ∀ entry ∈ files.entries, (run arguments tree).tree.read entry.1 = .ok entry.2)) ∧
      (i.stdout = false → (∀ after, ¬tree.Writes files.entries after) →
        ∃ error, (run arguments tree).exit = .error (.access error)) := by
  have runs : run arguments tree = i.run tree := by rw [run, accepted]
  rw [runs]
  refine ⟨fun none => ?_, fun ended => ?_, fun warnings project files loads made => ?_⟩
  · cases outcome : (i.generation tree).outcome with
    | error reason => exact run_of_no_files outcome
    | ok files =>
      obtain ⟨project, loads, made⟩ := Invocation.exists_loads_of_generation outcome
      exact absurd made (none _ project files loads)
  · cases outcome : (i.generation tree).outcome with
    | error reason => exact (run_of_no_files outcome).1
    | ok files =>
      rw [(run_of_files outcome).2.1] at ended
      rcases exit_deliver i tree files with done | ⟨error, broken⟩
      · simp [done] at ended
      · simp [broken] at ended
  · obtain ⟨generated, rfl⟩ := loads.generation made
    obtain ⟨stdout, exit, left⟩ := run_of_files generated
    refine ⟨fun prints => ?_, fun writes after written => ?_, fun writes fails => ?_⟩
    · rw [deliver, if_pos prints] at stdout exit left
      exact ⟨exit, left, stdout⟩
    · rw [deliver, if_neg (by simp [writes]), writeFiles_of_writes written] at stdout exit left
      obtain ⟨holds, read⟩ := loads.holdsLast made written
      dsimp only at left
      rw [← left] at holds read
      exact ⟨left, ⟨exit, holds, fun _ => holds.find?_of_none, stdout⟩, read⟩
    · rw [exit, deliver, if_neg (by simp [writes])]
      exact exit_writeFiles_of_not_writes fails

/-- A package is written and read back, or printed. Without its manifest nothing happens. -/
theorem run_all_or_nothing_shop :
    (run ["m.json", "--no-scaffold"] (packageTree "Shop")).exit = .ok 0 ∧
    (filesOf (packageProject "Shop")).entries.map Prod.fst =
      ["ts-output/Shop/index.ts", "ts-output/index.ts"] ∧
    (∀ entry ∈ (filesOf (packageProject "Shop")).entries,
      (run ["m.json", "--no-scaffold"] (packageTree "Shop")).tree.read entry.1 = .ok entry.2) ∧
    (run ["m.json", "--no-scaffold", "--stdout"] (packageTree "Shop")).PrintedAll []
      (filesOf (packageProject "Shop")) (packageTree "Shop") ∧
    (run ["m.json", "--no-scaffold"] {}).tree = {} := by
  have member : "Shop" ∈ packageNames := by decide
  obtain ⟨_, _, delivers⟩ := run_all_or_nothing parse_plain (packageTree "Shop")
  obtain ⟨_, written, _⟩ :=
    delivers _ _ _ (loads_packageProject member) (outputs_packageProject member)
  obtain ⟨_, wrote, read⟩ := written rfl _ (writes_packageProject member)
  have parsePrinting : parse ["m.json", "--no-scaffold", "--stdout"] =
      .ok { plainInvocation with stdout := true } := rfl
  obtain ⟨_, _, prints⟩ := run_all_or_nothing parsePrinting (packageTree "Shop")
  obtain ⟨printed, _, _⟩ :=
    prints _ _ _ (loads_packageProject member) (outputs_packageProject member)
  obtain ⟨none, _, _⟩ := run_all_or_nothing parse_plain {}
  have paths : (filesOf (packageProject "Shop")).entries.map Prod.fst =
      ["ts-output/Shop/index.ts", "ts-output/index.ts"] := by decide +kernel
  refine ⟨wrote.exit, paths, ?_, printed rfl, (none ?_).1⟩
  · exact read fun generated produced => inner_packageProject produced
  · rintro _ _ _ ⟨_, _, _, _, _, manifest, _⟩
    cases manifest

/-- The output directory as a package: its index lies where the index of the project lies, and
is lost when that one is written. -/
theorem outputs_in_one_place :
    ∃ project files after, plainInvocation.Loads (packageTree "../ts-output") [] project ∧
      project.outputs.1 = .ok files ∧ (packageTree "../ts-output").Writes files.entries after ∧
      (run ["m.json", "--no-scaffold"] (packageTree "../ts-output")).exit = .ok 0 ∧
      (run ["m.json", "--no-scaffold"] (packageTree "../ts-output")).tree = after ∧
      ∃ entry ∈ files.entries, entry.1 = "ts-output/../ts-output/index.ts" ∧
        after.read entry.1 ≠ .ok entry.2 := by
  have member : "../ts-output" ∈ packageNames := by decide
  have runs : run ["m.json", "--no-scaffold"] (packageTree "../ts-output") =
      plainInvocation.run (packageTree "../ts-output") := by rw [run, parse_plain]
  have loads := loads_packageProject member
  have made := outputs_packageProject member
  have writes := writes_packageProject member
  obtain ⟨generated, _⟩ := loads.generation made
  obtain ⟨_, exit, left⟩ := run_of_files generated
  rw [deliver, if_neg (by decide), writeFiles_of_writes writes] at exit left
  -- The text of the first index is not the one that is read back.
  have lost : ∃ entry ∈ (filesOf (packageProject "../ts-output")).entries,
      entry.1 = "ts-output/../ts-output/index.ts" ∧
        ((packageOutput "../ts-output").read entry.1).toOption ≠ some entry.2 := by decide +kernel
  obtain ⟨entry, listed, path, other⟩ := lost
  refine ⟨_, _, _, loads, made, writes, runs ▸ exit, runs ▸ left, entry, listed, path, ?_⟩
  intro same
  rw [same] at other
  exact other rfl

end MoveBindings.CommandLine
