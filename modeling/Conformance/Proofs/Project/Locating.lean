import Conformance.Proofs.Disk.Spelling
import Conformance.Proofs.Solution.Order
/-!
# Where a project has its files

All that a project file says about places is read from the directory of the file, which is there
because the file is.  The outputs start in that directory, as they are written, unless they are
absolute; and where the directory is absolute, all that is saved for the project is.
-/
namespace Conformance

namespace Project

theorem ofConfig_of_load {d : Disk} {key : Path} {p : Project} (h : load d key = .ok p) :
    ∃ c, ofConfig c key = .ok p := by
  obtain ⟨-, c, -, -, hconfig⟩ := Solution.load_eq_ok.1 h
  exact ⟨c, hconfig⟩

theorem startsIn_outputPath {d : Disk} {key : Path} {p : Project} (hload : load d key = .ok p)
    {lead : Path.Lead} {names : List (List Char)} (hdir : p.dir.IsNormal lead names)
    {f : SourceFile} {w : Path} (hw : p.outputPath f = some w) : Path.StartsIn p.dir w := by
  obtain ⟨c, hconfig⟩ := ofConfig_of_load hload
  have houtDir := (settles_of_ofConfig hconfig).outDir
  unfold outputPath at hw
  split at hw
  · cases hw
  · cases hw
    rw [houtDir]
    cases c.options.outDir with
    | none => exact Path.startsIn_join hdir _
    | some text => exact (Path.startsIn_join hdir _).join _

theorem isAbsolute_saved {d : Disk} {key : Path} {p : Project} (hload : load d key = .ok p)
    (hdir : p.dir.isAbsolute = true) : p.buildInfoPath.isAbsolute = true ∧
      ∀ f w, p.outputPath f = some w → w.isAbsolute = true := by
  obtain ⟨c, hconfig⟩ := ofConfig_of_load hload
  have houtDir := (settles_of_ofConfig hconfig).outDir
  have hrecord := (settles_of_ofConfig hconfig).buildInfoPath
  have hout : p.outDir.isAbsolute = true := by
    rw [houtDir]
    cases c.options.outDir with
    | none => exact hdir
    | some text => exact Path.isAbsolute_join hdir _
  refine ⟨?_, fun f w hw => ?_⟩
  · rw [hrecord]
    cases c.options.buildInfoFile with
    | none => exact Path.isAbsolute_join hout _
    | some text => exact Path.isAbsolute_join hdir _
  · unfold outputPath at hw
    split at hw
    · cases hw
    · cases hw
      exact Path.isAbsolute_join hout _

/-! ## The directory -/

theorem follow_of_load {d : Disk} {key : Path} {p : Project} (hload : load d key = .ok p)
    {lead : Path.Lead} {names : List (List Char)} (hkey : key.IsNormal lead names) :
    names ≠ [] ∧ ∃ place, d.follow (d.start key) names.dropLast = .ok (place, .dir) := by
  obtain ⟨text, -, htext, -, -⟩ := Solution.load_eq_ok.1 hload
  obtain ⟨place, bytes, hres, -⟩ := Disk.readText_eq_ok.1 htext
  obtain ⟨hcheck, hfollow⟩ := Disk.follow_of_resolve hres
  have hne : names ≠ [] := by
    rintro rfl
    -- without names the way ends where it starts
    have htrims : Path.Trims key.pieces [] := by
      rw [hkey.eq]
      cases hlead : lead with
      | dot => exact absurd hlead hkey.plain
      | root => exact .drop rfl .nil
      | bare => exact .drop rfl .nil
    have hstay := Disk.follow_of_trims htrims hfollow
    have hstart := d.start_dir key
    rw [Except.ok.inj hstay] at hstart
    cases hstart
  rw [hkey.pieces_eq hne, ← List.dropLast_concat_getLast hne, Disk.follow_append] at hfollow
  refine ⟨hne, ?_⟩
  cases hinit : d.follow (d.start key) names.dropLast with
  | error e =>
    rw [hinit] at hfollow
    cases hfollow
  | ok spot =>
    rw [hinit] at hfollow
    obtain ⟨next, hstep, -⟩ := Disk.follow_cons_ok hfollow
    obtain ⟨dir, e⟩ := spot
    cases (Disk.step_eq_ok.1 hstep).1
    exact ⟨dir, rfl⟩

theorem dir_of_load {d : Disk} {key : Path} {p : Project} (hload : load d key = .ok p)
    {lead : Path.Lead} {names : List (List Char)} (hkey : key.IsNormal lead names) :
    p.dir.IsNormal lead names.dropLast ∧
      ∃ place, d.follow (d.start p.dir) names.dropLast = .ok (place, .dir) := by
  obtain ⟨c, hconfig⟩ := ofConfig_of_load hload
  have hdir := (settles_of_ofConfig hconfig).dir
  obtain ⟨hne, place, hfollow⟩ := follow_of_load hload hkey
  obtain ⟨dir, hparent, hnormal⟩ := hkey.parent hne
  have hpdir : p.dir = dir := by rw [hdir, dirOf, hparent, Option.getD_some]
  have hstart : d.start p.dir = d.start key := by
    unfold Disk.start Path.isAbsolute
    rw [hpdir, hnormal.lead_eq, hkey.lead_eq]
  rw [hstart, hpdir]
  exact ⟨hnormal, place, hfollow⟩

theorem dir_of_canonical {d : Disk} {key : Path} {p : Project} (hload : load d key = .ok p)
    {names : List (List Char)} (hkey : key.IsCanonical names) :
    p.dir.IsCanonical names.dropLast ∧ d.resolve p.dir = .ok (names.dropLast, .dir) := by
  obtain ⟨hdir, place, hfollow⟩ := dir_of_load hload (Path.IsCanonical.isNormal hkey)
  have hinit : ∀ n ∈ names.dropLast, Path.IsName n :=
    fun n hn => hkey.2 n (List.dropLast_subset names hn)
  have hcanonical : p.dir.IsCanonical names.dropLast := ⟨hdir.eq, hinit⟩
  refine ⟨hcanonical, ?_⟩
  obtain ⟨text, -, htext, -, -⟩ := Solution.load_eq_ok.1 hload
  obtain ⟨_, bytes, hres, -⟩ := Disk.readText_eq_ok.1 htext
  have hsub : List.Sublist p.dir.chars key.chars := by
    rw [hdir.eq, hkey.1]
    exact Path.ofPieces_sublist .root (List.dropLast_sublist names)
  have hchars : p.dir.chars ≠ [] := by
    rw [hdir.eq]
    simp [Path.ofPieces]
  refine Disk.resolve_eq_ok.2
    ⟨Disk.checkPath_of_sublist (Disk.follow_of_resolve hres).1 hsub hchars, ?_⟩
  rw [Disk.start_of_isAbsolute hcanonical.isAbsolute] at hfollow ⊢
  have hplace := Disk.follow_names hinit hfollow
  rw [List.nil_append] at hplace
  cases hplace
  cases hnames : names.dropLast with
  | nil =>
    rw [hnames] at hcanonical
    rw [hcanonical.pieces_nil]
    rfl
  | cons n rest =>
    rw [hnames] at hcanonical hfollow
    rw [hcanonical.pieces (by simp)]
    exact hfollow

end Project

namespace Solution

theorem isNormal_of_reaches {d : Disk} {root key : Path}
    (hroot : ∃ lead names, root.IsNormal lead names) (h : Reaches d root key) :
    ∃ lead names, key.IsNormal lead names := by
  -- what a reference names is normalized, so only the root can be as it was given
  rcases h.cases_tail with rfl | ⟨_, -, p, -, hmem⟩
  · exact hroot
  · obtain ⟨r, -, rfl⟩ := List.mem_map.1 hmem
    exact Path.isNormal_normalize _

theorem IsOrder.normal {d : Disk} {root : Path} {ps : List Project} (h : IsOrder d root ps)
    (hroot : ∃ lead names, root.IsNormal lead names) {p : Project} (hp : p ∈ ps) :
    ∃ key lead names, p.configPath = some key ∧ Project.load d key = .ok p ∧
      key.IsNormal lead names := by
  obtain ⟨key, hpath, hload⟩ := h.loaded p hp
  have hreach := (h.whole key).1 (List.mem_map.2 ⟨p, hp, hpath⟩)
  obtain ⟨lead, names, hnormal⟩ := isNormal_of_reaches hroot hreach
  exact ⟨key, lead, names, hpath, hload, hnormal⟩

end Solution

end Conformance
