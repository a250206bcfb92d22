import MoveBindings.Proofs.Emission.Alike
import MoveBindings.Proofs.Emission.KnownModules
import MoveBindings.Proofs.Emission.ProjectLines
import MoveBindings.Proofs.Emission.Runs

/-!
# Packages in another order

When a project has the same packages in another order, and every module is found
in the same package, its generation comes out alike: with the same files in
another order, but for the index of the project, whose lines are in another
order, and with the same findings.
-/

namespace MoveBindings

open TypeScript

theorem usedContainers_perm {aliases others : List PackageAliases} (same : aliases.Perm others) :
    usedContainers aliases = usedContainers others := by
  refine List.filter_congr fun container _ => ?_
  rw [Bool.eq_iff_iff, List.contains_iff_mem, List.contains_iff_mem,
    (same.flatMap_right _).mem_iff]

namespace Environment

open Emission

variable {env : Environment}

/-- The same sources in another order, with the packages of the index at their end in another
order. -/
inductive Rearranged (env : Environment) : List SourceAt → List SourceAt → Prop where
  | intro {files others : List SourceAt} {packages otherPackages : List String}
      (same : files.Perm others) (names : packages.Perm otherPackages) :
      Rearranged env (files ++ [⟨IndexFile.projectPath, env.projectScript packages⟩])
        (others ++ [⟨IndexFile.projectPath, env.projectScript otherPackages⟩])

/-- The same files in another order, with the index of a project at their end whose lines are in
another order. -/
inductive Reordered : List OutputFile → List OutputFile → Prop where
  | intro {files others : List OutputFile} {text otherText : String} (same : files.Perm others)
      (lines : (Text.lines text).Perm (Text.lines otherText)) :
      Reordered (files ++ [⟨IndexFile.projectPath, text⟩])
        (others ++ [⟨IndexFile.projectPath, otherText⟩])

theorem alike_projectIndex {packages others : List String} (same : packages.Perm others) :
    Alike
      (fun script other =>
        script = env.projectScript packages ∧ other = env.projectScript others)
      (env.projectIndex packages) (env.projectIndex others) := by
  have accepted : (∃ ok, IndexFile.distinct "package" "" packages = .ok ok) ↔
      ∃ ok, IndexFile.distinct "package" "" others = .ok ok := by
    simp only [IndexFile.distinct_eq_ok_iff, same.nodup_iff]
  have alike : Alike (fun _ _ => True) (env.projectIndex packages) (env.projectIndex others) :=
    .bind (.ofExcept accepted) fun _ _ _ =>
      .bind (.mapM_perm env.packageChild same) fun _ _ _ => .pure trivial
  refine alike.imp fun script other made otherMade => ?_
  exact ⟨(env.projectIndex_eq_ok_iff.mp made).2, (env.projectIndex_eq_ok_iff.mp otherMade).2⟩

variable {first second : ModuleMap} {catalog other : Catalog}

/-- The sources of a project with its packages in another order come out alike. -/
theorem alike_projectSources (found : ∀ id, first.find? id = second.find? id)
    (same : catalog.packages.Perm other.packages) :
    Alike env.Rearranged ((env.knowing first).projectSources catalog)
      ((env.knowing second).projectSources other) := by
  have names : catalog.names.Perm other.names := same.map Package.name
  have classes := classFile_congr env found fun name => names.mem_iff
  rw [projectSources, projectSources, packageAliases_congr found, classes]
  refine .bind (.mapM_perm _ same) fun aliases others sameAliases => ?_
  rw [usedContainers_perm sameAliases]
  refine .bind (.refl (fun _ => rfl) _) ?_
  rintro classes _ rfl
  refine .bind (.mapM_perm _ sameAliases) fun files otherFiles sameFiles => ?_
  refine .bind (alike_projectIndex names) ?_
  rintro _ _ ⟨rfl, rfl⟩
  exact .pure (.intro (sameFiles.flatten.append_right _) names)

/-- The files of a project with its packages in another order come out alike. -/
theorem alike_projectFiles (found : ∀ id, first.find? id = second.find? id)
    (same : catalog.packages.Perm other.packages) :
    Alike Reordered ((env.knowing first).projectFiles catalog)
      ((env.knowing second).projectFiles other) := by
  refine .bind (alike_projectSources found same) ?_
  rintro _ _ ⟨sameFiles, names⟩
  obtain ⟨text, otherText, laidOut, otherLaidOut, lines⟩ :=
    env.layOut_projectScript_perm names IndexFile.projectPath
  rw [layOut_knowing, layOut_knowing, ofExcept_mapM, ofExcept_mapM, List.mapM_append,
    List.mapM_append]
  refine .bind (.mapM_perm _ sameFiles) fun files others same => ?_
  simp only [List.mapM_cons, List.mapM_nil, laidOut, otherLaidOut]
  exact .success (.intro same lines) (.refl [])

end Environment

end MoveBindings
