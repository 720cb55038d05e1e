import Conformance.Project.Load
import Conformance.Proofs.Disk.Listing
/-!
# Discovering root files

The root files that a project does not name are the files below its directory that its globs take.
They change only with what is listed there, so a build that writes no root file discovers the same
ones again (`roots_of_edits`).
-/
namespace Conformance

open Disk (Edits)

namespace Project

theorem load_congr {d d' : Disk} {configPath : Path}
    (h : d'.readText configPath = d.readText configPath) :
    load d' configPath = load d configPath := by
  unfold load
  rw [h]

def taken (d : Disk) (p : Project) : List (ProjectPath × Path) :=
  ((d.filesBelow p.dir).map fun path => (ProjectPath.relativeTo p.dir path, path)).filter
    fun file => p.takes file.1

theorem roots_of_files_eq_none {d : Disk} {p : Project} (h : p.files = none) :
    p.roots d = ((taken d p).mergeSort rootLe).eraseDups.map (·.2) := by
  rw [roots, h]
  rfl

theorem roots_of_ordered {d : Disk} {p : Project} (h : p.files = none)
    (hordered : (taken d p).Pairwise (rootLe · ·)) :
    p.roots d = (taken d p).eraseDups.map (·.2) := by
  rw [roots_of_files_eq_none h, List.mergeSort_of_pairwise hordered]

/-- **The root files are the files below the directory of the project that its globs take.** -/
theorem mem_roots {d : Disk} {p : Project} (h : p.files = none) {path : Path} : path ∈ p.roots d ↔
    path ∈ d.filesBelow p.dir ∧ p.takes (ProjectPath.relativeTo p.dir path) = true := by
  rw [roots_of_files_eq_none h, List.mem_map]
  simp only [List.mem_eraseDups, List.mem_mergeSort, taken, List.mem_filter, List.mem_map]
  constructor
  · rintro ⟨_, ⟨⟨path, hpath, rfl⟩, htakes⟩, rfl⟩
    exact ⟨hpath, htakes⟩
  · rintro ⟨hpath, htakes⟩
    exact ⟨_, ⟨⟨path, hpath, rfl⟩, htakes⟩, rfl⟩

theorem roots_congr {d : Disk} {p q : Project} (hp : p.files = none) (hq : q.files = none)
    (hdir : q.dir = p.dir) (h : ∀ path ∈ d.filesBelow p.dir,
      p.takes (ProjectPath.relativeTo p.dir path) = q.takes (ProjectPath.relativeTo p.dir path)) :
    p.roots d = q.roots d := by
  have htaken : taken d p = taken d q := by
    rw [taken, taken, hdir]
    refine List.filter_congr fun file hfile => ?_
    obtain ⟨path, hpath, rfl⟩ := List.mem_map.1 hfile
    exact h path hpath
  rw [roots_of_files_eq_none hp, roots_of_files_eq_none hq, htaken]

/-- **A project that no root file was saved for has the root files that it had.** -/
theorem roots_of_edits {dirs : Path → Prop} {files : List Path} {d d' : Disk} {p : Project}
    {names : Place} (h : Edits dirs files d d') (hdir : p.dir.IsCanonical names)
    (hfiles : ∀ w ∈ files, w.isAbsolute = true) (hplace : d.resolve p.dir = .ok (names, .dir))
    (hapart : ∀ root ∈ p.roots d', ∀ w ∈ files, d'.meet root w = false) :
    p.roots d' = p.roots d := by
  cases hnamed : p.files with
  | some named => simp only [roots, hnamed]
  | none =>
    obtain ⟨new, hlist, hnew⟩ := h.filesBelow hdir hfiles hplace
    have hnone : (new.map fun path => (ProjectPath.relativeTo p.dir path, path)).filter
        (fun file => p.takes file.1) = [] := by
      refine List.filter_eq_nil_iff.2 fun file hfile htakes => ?_
      obtain ⟨path, hpath, rfl⟩ := List.mem_map.1 hfile
      obtain ⟨w, hw, hmeet⟩ := hnew path hpath
      have hroot : path ∈ p.roots d' := by
        refine (mem_roots hnamed).2 ⟨?_, htakes⟩
        rw [hlist]
        exact List.mem_append_right _ hpath
      rw [hapart path hroot w hw] at hmeet
      cases hmeet
    have htaken : taken d' p = taken d p := by
      rw [taken, hlist, List.map_append, List.filter_append, hnone, List.append_nil, taken]
    rw [roots_of_files_eq_none hnamed, roots_of_files_eq_none hnamed, htaken]

end Project

end Conformance
