import MoveBindings.Proofs.Emission.Places
import MoveBindings.Proofs.TypeScript.Rows

/-!
# Laying files out

A file can be laid out when its nodes stand where they may: imports, exports,
aliases, functions and classes in the file, and properties, constructors and
methods in a class. All files of a run are of this kind, so once the sources of
a project are found nothing goes wrong.
-/

namespace MoveBindings

open TypeScript

namespace Environment

variable {env : Environment}

theorem exists_layOut {source : Script} (h : ∀ node ∈ source.nodes, node.StandsInFile)
    (path : String) : ∃ file, env.layOut path source = .ok file := by
  have laidOut := Printer.file_of_stand (p := ⟨env.indent, 0⟩) h
  exact ⟨⟨path, _⟩, by rw [layOut, laidOut]⟩

theorem standsInFile_childLinks (children : List Child) :
    ∀ node ∈ env.childLinks children, node.StandsInFile := by
  intro node member
  simp only [childLinks, List.cons_append, List.mem_cons, List.mem_append, List.mem_map] at member
  rcases member with rfl | ⟨_, _, rfl⟩ | ⟨_, _, rfl⟩ <;> trivial

theorem standsInFile_packageScript (modules : List ModuleId) (companions : List String) :
    ∀ node ∈ (env.packageScript modules companions).nodes, node.StandsInFile := by
  intro node member
  simp only [packageScript, List.mem_append, List.mem_cons, List.not_mem_nil, or_false] at member
  rcases member with link | rfl | rfl
  · exact standsInFile_childLinks _ node link
  · trivial
  · trivial

theorem standsInFile_projectScript (packages : List String) :
    ∀ node ∈ (env.projectScript packages).nodes, node.StandsInFile := by
  intro node member
  simp only [projectScript, List.mem_append, List.mem_singleton] at member
  rcases member with link | rfl
  · exact standsInFile_childLinks _ node link
  · trivial

theorem isMember_classMembers (container : Container) (name : QualifiedName) :
    ∀ member ∈ env.classMembers container name, member.IsMember := by
  intro node member
  cases container
  all_goals
    simp only [classMembers, ContainerClass.tableMembers, ContainerClass.iterableTableMembers,
      List.mem_cons, List.not_mem_nil, or_false] at member
    rcases member with rfl | rfl | rfl | rfl | rfl | rfl <;> trivial

theorem standsInFile_classScript (container : Container) (path : String) (name : QualifiedName) :
    ∀ node ∈ (env.classScript container path name).nodes, node.StandsInFile := by
  intro node member
  simp only [classScript, List.mem_append, List.mem_map, List.mem_singleton] at member
  rcases member with ⟨_, _, rfl⟩ | rfl
  · trivial
  · exact isMember_classMembers container name

theorem standsInFile_aliasScript (path : String) (fields : List ContainerField)
    (stems : List (String × Container)) :
    ∀ node ∈ (env.aliasScript path fields stems).nodes, node.StandsInFile := by
  intro node member
  simp only [aliasScript, List.mem_append, List.mem_map] at member
  rcases member with ⟨_, _, rfl⟩ | ⟨_, _, rfl⟩ <;> trivial

namespace Run

variable {catalog : Catalog} {names : Container → QualifiedName}

theorem standsInFile (run : Run env catalog names) {file : SourceAt} (member : file ∈ run.sources) :
    ∀ node ∈ file.source.nodes, node.StandsInFile := by
  rcases run.mem_sources_iff.mp member with
    ⟨aliases, inRun, result, found, rfl⟩ | ⟨aliases, _, rfl⟩ | ⟨container, _, rfl⟩ | rfl
  · obtain ⟨module, _, made⟩ := run.makesAliases_of_mem inRun found
    cases made with
    | some _ _ made =>
      obtain ⟨_, stems, _, rfl⟩ := of_aliasSource made
      exact standsInFile_aliasScript _ _ stems
  · exact standsInFile_packageScript _ _
  · exact standsInFile_classScript container _ _
  · exact standsInFile_projectScript _

/-- All files of a run can be laid out. -/
theorem exists_files (run : Run env catalog names) :
    ∃ files, run.sources.mapM (fun file => env.layOut file.path file.source) = .ok files :=
  exists_mapM_eq_ok_iff.mpr fun file member => exists_layOut (run.standsInFile member) file.path

end Run

end Environment

end MoveBindings
