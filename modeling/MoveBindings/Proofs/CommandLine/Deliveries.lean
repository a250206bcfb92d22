import MoveBindings.CommandLine.Run
import MoveBindings.Proofs.FileTree.Writes
import MoveBindings.Proofs.Project.Outputs

/-!
# What a run leaves behind

A run has files exactly when a project can be loaded and generated. If it has
none, everything stays as it was. If it has them, it prints all of them and
writes none, or it writes all of them: to each place that one of their paths leads
to the last text that belongs there.
-/

namespace MoveBindings

namespace ProjectOptions

variable {options : ProjectOptions} {generated : List OutputFile} {entry : String × String}

/-- Everything to be written has a path from the output directory: a generated file perhaps in the
directory of sources, and the files of a package beside it. -/
theorem exists_below_of_mem_outputs (member : entry ∈ (options.outputs generated).entries) :
    ∃ directory ∈ ([⟨"", []⟩, ⟨"", ["src"]⟩] : List Path),
      ∃ file ∈ generated ++ NpmPackage.files options.name,
        entry.1 = (options.outputDir.join (directory.join (Path.ofString file.path))).text := by
  have here (p : Path) : (⟨"", []⟩ : Path).join p = p := by
    unfold Path.join
    split
    · next relative => simp [← relative]
    · rfl
  rw [outputs_eq] at member
  rcases Dictionary.mem_of_mem_insertAll member with impossible | listed
  · cases impossible
  rw [placedFiles_eq] at listed
  rcases List.mem_append.mp listed with source | beside
  · obtain ⟨file, inGenerated, rfl⟩ := List.mem_map.mp source
    have listed : file ∈ generated ++ NpmPackage.files options.name :=
      List.mem_append_left _ inGenerated
    by_cases isPackage : options.isPackage = true
    · refine ⟨⟨"", ["src"]⟩, by simp, file, listed, ?_⟩
      rw [placed, sourceRoot, if_pos isPackage, Path.join_assoc]
    · refine ⟨⟨"", []⟩, by simp, file, listed, ?_⟩
      rw [placed, sourceRoot, if_neg isPackage, here]
  · rw [scaffold_eq] at beside
    split at beside
    · obtain ⟨file, inPackage, rfl⟩ := List.mem_map.mp beside
      exact ⟨⟨"", []⟩, by simp, file, List.mem_append_right _ inPackage, by rw [placed, here]⟩
    · cases beside

theorem isNormal_of_mem_directories {directory : Path}
    (member : directory ∈ ([⟨"", []⟩, ⟨"", ["src"]⟩] : List Path)) : directory.IsNormal := by
  simp only [List.mem_cons, List.not_mem_nil, or_false] at member
  rcases member with rfl | rfl
  · exact Path.isNormal_ofString ""
  · exact Path.isNormal_ofString "src"

/-- Paths of files to be written are read as they are spelled. -/
theorem text_ofString_of_mem_outputs (normal : options.outputDir.IsNormal)
    (member : entry ∈ (options.outputs generated).entries) :
    (Path.ofString entry.1).text = entry.1 := by
  obtain ⟨directory, inDirectories, file, _, path⟩ := exists_below_of_mem_outputs member
  have below := (isNormal_of_mem_directories inDirectories).join (Path.isNormal_ofString file.path)
  rw [path, (normal.join below).ofString_text]

/-- When generated files stay below the directory of sources, everything to be written has a place
of its own. -/
theorem eq_of_locate_outputs (normal : options.outputDir.IsNormal)
    (inner : ∀ file ∈ generated, (Path.ofString file.path).IsInner) {other : String × String}
    (member : entry ∈ (options.outputs generated).entries)
    (otherMember : other ∈ (options.outputs generated).entries) {tree : FileTree}
    {place : Location} (located : tree.locate entry.1 = .ok place)
    (otherLocated : tree.locate other.1 = .ok place) : other = entry := by
  have packageInner : ∀ file ∈ NpmPackage.files options.name,
      (Path.ofString file.path).IsInner := by
    have names : ∀ name ∈ scaffoldNames, (Path.ofString name).IsInner := by decide
    exact fun file listed => names _ (List.mem_map_of_mem (f := OutputFile.path) listed)
  have below {e : String × String} (inOutputs : e ∈ (options.outputs generated).entries) :
      ∃ p : Path, e.1 = (options.outputDir.join p).text ∧ p.IsNormal ∧ p.IsInner := by
    obtain ⟨directory, inDirectories, file, listed, path⟩ := exists_below_of_mem_outputs inOutputs
    have fileInner : (Path.ofString file.path).IsInner := by
      rcases List.mem_append.mp listed with source | beside
      · exact inner file source
      · exact packageInner file beside
    have normalBelow := (isNormal_of_mem_directories inDirectories).join
      (Path.isNormal_ofString file.path)
    refine ⟨_, path, normalBelow, ?_⟩
    rw [Path.join, if_pos fileInner.relative]
    simp only [List.mem_cons, List.not_mem_nil, or_false] at inDirectories
    rcases inDirectories with rfl | rfl
    · exact ⟨rfl, fileInner.noUps⟩
    · exact ⟨rfl, by simpa using fileInner.noUps⟩
  obtain ⟨p, path, pNormal, pInner⟩ := below member
  obtain ⟨q, otherPath, qNormal, qInner⟩ := below otherMember
  rw [path] at located
  rw [otherPath] at otherLocated
  obtain rfl := FileTree.eq_of_locate_join normal pNormal qNormal pInner qInner located otherLocated
  have distinct : (options.outputs generated).keys.Nodup :=
    Dictionary.keys_insertAll_nodup (d := .empty) List.nodup_nil _
  have text := Dictionary.find?_of_mem_entries distinct member
  have otherText := Dictionary.find?_of_mem_entries distinct otherMember
  rw [path, ← otherPath] at text
  exact Prod.ext (otherPath.trans path.symm) (Option.some.inj (otherText.symm.trans text))

end ProjectOptions

/-- What is written was generated. -/
theorem Project.exists_generate_of_outputs {project : Project} {files : Dictionary String String}
    (made : project.outputs.1 = .ok files) :
    ∃ generated, project.generate.1 = .ok generated ∧
      files = project.options.outputs generated := by
  have placed : project.outputs.1 = project.generate.1.map project.options.outputs := rfl
  rw [placed] at made
  cases produced : project.generate.1 with
  | error failure =>
    rw [produced] at made
    cases made
  | ok generated =>
    rw [produced] at made
    cases made
    exact ⟨generated, rfl, rfl⟩

namespace CommandLine

open FileTree

/-! ## Loading and generating -/

namespace Invocation

/-- The project of an invocation before anything is declared. -/
def newProject (i : Invocation) (directory : String) (overrides : Overrides) : Project where
  options := i.projectOptions directory
  settings := overrides.apply {}
  log := { verbose := i.verbose }

/-- An invocation loads a project from a tree, with warnings about its settings: there is an output
directory, the settings can be read if they are to be, the manifest can be read, and everything in
it can be declared. -/
def Loads (i : Invocation) (tree : FileTree) (warnings : List SettingsWarning)
    (project : Project) : Prop :=
  ∃ directory overrides text, i.output = some directory ∧
    i.overrides (tree.read (i.configPath.getD "")) = .ok (overrides, warnings) ∧
    tree.read i.manifest = .ok text ∧
    (i.newProject directory overrides).addManifestText i.manifest text = (.ok (), project)

/-- What comes out of generation in a tree. -/
def generation (i : Invocation) (tree : FileTree) : Generation :=
  i.generate (tree.read (i.configPath.getD "")) (tree.read i.manifest)

variable {i : Invocation} {tree : FileTree} {warnings : List SettingsWarning} {project : Project}
  {files : Dictionary String String}

/-- A project that is loaded and generated comes out of generation. -/
theorem Loads.generation (loads : i.Loads tree warnings project)
    (made : project.outputs.1 = .ok files) :
    (i.generation tree).outcome = .ok files ∧ (i.generation tree).warnings = warnings := by
  obtain ⟨directory, overrides, text, output, settings, manifest, added⟩ := loads
  unfold newProject at added
  simp only [Invocation.generation, generate, output, settings, outputs, manifest, added, made]
  exact ⟨rfl, trivial⟩

/-- What comes out of generation was loaded and generated. -/
theorem exists_loads_of_generation (h : (i.generation tree).outcome = .ok files) :
    ∃ project, i.Loads tree (i.generation tree).warnings project ∧
      project.outputs.1 = .ok files := by
  unfold generation generate at h ⊢
  split at h
  · cases h
  · cases h
  · next directory overrides warnings output settings =>
    dsimp only at h ⊢
    unfold outputs at h
    dsimp only at h
    split at h
    · cases h
    · next text manifest =>
      split at h
      · cases h
      · next project added =>
        dsimp only at h
        cases outcome : project.outputs.1 with
        | error failure => rw [outcome] at h; cases h
        | ok found =>
          rw [outcome] at h
          cases h
          exact ⟨project, ⟨directory, overrides, text, output, settings, manifest, added⟩, outcome⟩

end Invocation

end CommandLine

end MoveBindings
