import Conformance.Proofs.Disk.Removing
import Conformance.Proofs.Path.Joining
import Conformance.Proofs.Project.Excluding
/-!
# Root files in order

A disk has its entries in any order, and so are files listed below a directory.  The root files of a
project do not depend on that: they are sorted by what is shown of them and then by their paths, and
no two files that are listed have one path (`eq_of_components_eq`), so the order leaves no choice
(`rootsAmong_of_perm`).  Two files can be shown alike, by a backslash in the name of one of them; then
the paths decide.
-/
namespace Conformance

open Text (joinWith)
open Conformance.Path (IsName)

theorem eraseDups_of_nodup {α : Type} [BEq α] [LawfulBEq α] : ∀ {xs : List α}, xs.Nodup →
    xs.eraseDups = xs
  | [], _ => rfl
  | x :: xs, h => by
    obtain ⟨hx, hxs⟩ := List.nodup_cons.1 h
    have hkeep : xs.filter (fun y => !y == x) = xs := by
      refine List.filter_eq_self.2 fun y hy => ?_
      have hne : y ≠ x := fun hyx => hx (hyx ▸ hy)
      simpa using hne
    rw [List.eraseDups_cons, hkeep, eraseDups_of_nodup hxs]

namespace Path

/-! ## Names below a directory -/

/-- Names on the way from a directory to something below it. -/
structure LeadBelow (names : List (List Char)) : Prop where
  ne_nil : names ≠ []
  isName : ∀ n ∈ names, IsName n

namespace LeadBelow

variable {dir : Path} {names others : List (List Char)}

theorem components_join (h : LeadBelow names) (hdir : dir.chars ≠ []) :
    (dir.join ⟨joinWith '/' names⟩).components = dir.components ++ names.map .name := by
  obtain ⟨hrelative, hsteps⟩ := stepsOf_pieces_joinWith_names h.isName
  rw [components, components, stepsOf_pieces_join dir hrelative, (pieces_join hdir hrelative).1,
    hsteps, List.append_assoc]

/-- **Paths below a directory are told apart by their steps.** -/
theorem eq_of_components_eq (h : LeadBelow names) (h' : LeadBelow others) (hdir : dir.chars ≠ [])
    (hsteps : (dir.join ⟨joinWith '/' names⟩).components =
      (dir.join ⟨joinWith '/' others⟩).components) : names = others := by
  rw [h.components_join hdir, h'.components_join hdir] at hsteps
  exact List.map_injective_iff.2 (fun _ _ heq => Component.name.inj heq)
    (List.append_cancel_left hsteps)

theorem relativeTo_join (h : LeadBelow names) (hdir : dir.chars ≠ []) :
    ProjectPath.relativeTo dir (dir.join ⟨joinWith '/' names⟩) = .ofChars (joinWith '/' names) := by
  rw [ProjectPath.relativeTo, strip?_join hdir h.ne_nil h.isName, Option.getD_some]

end LeadBelow

end Path

/-! ## What is listed -/

namespace Disk

open Conformance.Path (LeadBelow)

/-- A disk that has each place once, under names that name something. -/
structure IsOrderly (d : Disk) : Prop where
  once : (d.entries.map (·.1)).Nodup
  named : d.IsNamed

def HasFileBelow (d : Disk) (dir : Path) (names : Place) : Prop :=
  ∃ place bytes, d.resolve dir = .ok (place, .dir) ∧ names ≠ [] ∧
    d.find? (place ++ names) = some (.file bytes)

theorem lookup_eq_some_iff {place : Place} {e : Entry} : ∀ {es : List (Place × Entry)},
    (es.map (·.1)).Nodup → (lookup place es = some e ↔ (place, e) ∈ es)
  | [], _ => by simp [lookup]
  | (other, f) :: es, h => by
    rw [List.map_cons, List.nodup_cons] at h
    rw [lookup, List.mem_cons]
    split
    · rename_i hsame
      subst hsame
      have hnew : (other, e) ∉ es := fun hmem => h.1 (List.mem_map.2 ⟨_, hmem, rfl⟩)
      simp [hnew, eq_comm]
    · rename_i hother
      rw [lookup_eq_some_iff h.2]
      simp [Ne.symm hother]

variable {d : Disk} {dir : Path}

theorem HasFileBelow.chars_ne_nil {names : Place} (h : d.HasFileBelow dir names) :
    dir.chars ≠ [] := by
  obtain ⟨place, -, hres, -⟩ := h
  exact (checkPath_eq_ok.1 (resolve_eq_ok.1 hres).1).2.1

theorem hasFileBelow_iff (hd : d.IsOrderly) {place names : Place}
    (hres : d.resolve dir = .ok (place, .dir)) (hne : names ≠ []) :
    d.HasFileBelow dir names ↔ ∃ bytes, (place ++ names, .file bytes) ∈ d.entries := by
  have hfind : ∀ bytes, d.find? (place ++ names) = some (.file bytes) ↔
      (place ++ names, .file bytes) ∈ d.entries := by
    intro bytes
    rw [← lookup_of_find? (by simp [hne]), lookup_eq_some_iff hd.once]
  constructor
  · rintro ⟨place', bytes, hres', -, hfile⟩
    cases hres.symm.trans hres'
    exact ⟨bytes, (hfind bytes).1 hfile⟩
  · rintro ⟨bytes, hentry⟩
    exact ⟨place, bytes, hres, hne, (hfind bytes).2 hentry⟩

theorem HasFileBelow.leadBelow {names : Place} (h : d.HasFileBelow dir names) (hd : d.IsOrderly) :
    LeadBelow names := by
  obtain ⟨place, -, hres, hne, -⟩ := id h
  obtain ⟨bytes, hentry⟩ := (hasFileBelow_iff hd hres hne).1 h
  exact ⟨hne, fun n hn => hd.named _ hentry n (List.mem_append_right place hn)⟩

/-- **The files that are listed below a directory are those that names lead to from there.** -/
theorem mem_filesBelow (hd : d.IsOrderly) {path : Path} : path ∈ d.filesBelow dir ↔
    ∃ names, d.HasFileBelow dir names ∧ path = dir.join ⟨joinWith '/' names⟩ := by
  rw [mem_filesBelow_iff]
  constructor
  · rintro ⟨place, names, bytes, hres, hne, hentry, rfl⟩
    exact ⟨names, (hasFileBelow_iff hd hres hne).2 ⟨bytes, hentry⟩, rfl⟩
  · rintro ⟨names, hfile, rfl⟩
    obtain ⟨place, -, hres, hne, -⟩ := id hfile
    obtain ⟨bytes, hentry⟩ := (hasFileBelow_iff hd hres hne).1 hfile
    exact ⟨place, names, bytes, hres, hne, hentry, rfl⟩

theorem eq_of_components_eq (hd : d.IsOrderly) {a b : Path} (ha : a ∈ d.filesBelow dir)
    (hb : b ∈ d.filesBelow dir) (hsteps : a.components = b.components) : a = b := by
  obtain ⟨names, hnames, rfl⟩ := (mem_filesBelow hd).1 ha
  obtain ⟨others, hothers, rfl⟩ := (mem_filesBelow hd).1 hb
  rw [(hnames.leadBelow hd).eq_of_components_eq (hothers.leadBelow hd) hnames.chars_ne_nil hsteps]

theorem nodup_filePlaces (hd : d.IsOrderly) : (filePlaces d.entries).Nodup := by
  refine List.Pairwise.filterMap _ ?_ (List.pairwise_map.1 hd.once)
  rintro ⟨a, e⟩ ⟨b, f⟩ hab x hx y hy
  cases e <;> cases hx
  cases f <;> cases hy
  exact hab

theorem nodup_filesBelow (hd : d.IsOrderly) (dir : Path) : (d.filesBelow dir).Nodup := by
  cases hres : d.resolve dir with
  | error e => simp [filesBelow, hres]
  | ok spot =>
    obtain ⟨place, e⟩ := spot
    cases e with
    | file bytes => simp [filesBelow, hres]
    | dir =>
      rw [filesBelow_eq hres]
      refine List.Pairwise.filterMap _ ?_ (List.Pairwise.and_mem.1 (nodup_filePlaces hd))
      rintro a b ⟨ha, hb, hab⟩ x hx y hy hxy
      obtain ⟨names, hne, rfl, rfl⟩ := pathBelow_eq_some.1 hx
      obtain ⟨others, hne', rfl, rfl⟩ := pathBelow_eq_some.1 hy
      have hfile := (hasFileBelow_iff hd hres hne).2 (mem_filePlaces.1 ha)
      have hfile' := (hasFileBelow_iff hd hres hne').2 (mem_filePlaces.1 hb)
      have hsame := (hfile.leadBelow hd).eq_of_components_eq (hfile'.leadBelow hd)
        hfile.chars_ne_nil (congrArg Path.components hxy)
      exact hab (by rw [hsame])

theorem filesBelow_perm {d' : Disk} (hd : d.IsOrderly) (hd' : d'.IsOrderly)
    (hhere : d'.here = d.here) (hfind : ∀ place, d'.find? place = d.find? place) (dir : Path) :
    (d'.filesBelow dir).Perm (d.filesBelow dir) := by
  have hforth : Shrinks d d' :=
    ⟨hhere, fun place e he => by rw [← hfind, he], fun place he => by rw [hfind, he]⟩
  have hback : Shrinks d' d :=
    ⟨hhere.symm, fun place e he => by rw [hfind, he], fun place he => by rw [← hfind, he]⟩
  refine (List.perm_ext_iff_of_nodup (nodup_filesBelow hd' dir) (nodup_filesBelow hd dir)).2 ?_
  intro path
  rw [mem_filesBelow hd, mem_filesBelow hd']
  constructor
  · rintro ⟨names, ⟨place, bytes, hres, hne, hfile⟩, rfl⟩
    exact ⟨names, ⟨place, bytes, hforth.resolve hres, hne, by rw [← hfind, hfile]⟩, rfl⟩
  · rintro ⟨names, ⟨place, bytes, hres, hne, hfile⟩, rfl⟩
    exact ⟨names, ⟨place, bytes, hback.resolve hres, hne, by rw [hfind, hfile]⟩, rfl⟩

end Disk

namespace Project

/-! ## The order of root files -/

theorem rootLe_total (a b : ProjectPath × Path) : (rootLe a b || rootLe b a) = true := by
  unfold rootLe
  by_cases h : a.1 = b.1
  · rw [if_pos h, if_pos h.symm]
    exact Path.stepsLe_total _ _
  · rw [if_neg h, if_neg (Ne.symm h)]
    exact Text.le_total _ _

theorem rootLe_antisymm {a b : ProjectPath × Path} (h₁ : rootLe a b = true)
    (h₂ : rootLe b a = true) : a.1 = b.1 ∧ a.2.components = b.2.components := by
  unfold rootLe at h₁ h₂
  by_cases h : a.1 = b.1
  · rw [if_pos h] at h₁
    rw [if_pos h.symm] at h₂
    exact ⟨h, Path.stepsLe_antisymm h₁ h₂⟩
  · rw [if_neg h] at h₁
    rw [if_neg (Ne.symm h)] at h₂
    exact absurd (congrArg ProjectPath.mk (Text.le_antisymm h₁ h₂)) h

theorem rootLe_trans (a b c : ProjectPath × Path) (h₁ : rootLe a b = true)
    (h₂ : rootLe b c = true) : rootLe a c = true := by
  unfold rootLe at h₁ h₂ ⊢
  by_cases hab : a.1 = b.1
  · rw [if_pos hab] at h₁
    rw [hab]
    by_cases hbc : b.1 = c.1
    · rw [if_pos hbc] at h₂ ⊢
      exact Path.stepsLe_trans h₁ h₂
    · rw [if_neg hbc] at h₂ ⊢
      exact h₂
  · rw [if_neg hab] at h₁
    by_cases hbc : b.1 = c.1
    · rw [← hbc, if_neg hab]
      exact h₁
    · rw [if_neg hbc] at h₂
      have hac : a.1 ≠ c.1 := by
        intro hac
        rw [← hac] at h₂
        exact hab (congrArg ProjectPath.mk (Text.le_antisymm h₁ h₂))
      rw [if_neg hac]
      exact Text.le_trans h₁ h₂

/-- A file comes before another one by the text that is shown of it, or by its path where both are
shown alike. -/
structure ComesBefore (dir a b : Path) : Prop where
  ne : a ≠ b
  shown : Text.le (ProjectPath.relativeTo dir a).chars (ProjectPath.relativeTo dir b).chars = true
  path : ProjectPath.relativeTo dir a = ProjectPath.relativeTo dir b → a.le b = true

theorem comesBefore_of_rootLe {dir a b : Path} (hne : a ≠ b)
    (h : rootLe (ProjectPath.relativeTo dir a, a) (ProjectPath.relativeTo dir b, b) = true) :
    ComesBefore dir a b := by
  unfold rootLe at h
  split at h
  · rename_i hsame
    have hshown : ProjectPath.relativeTo dir a = ProjectPath.relativeTo dir b := hsame
    exact ⟨hne, by rw [hshown]; exact Text.le_refl _, fun _ => h⟩
  · rename_i hother
    exact ⟨hne, h, fun hsame => absurd hsame hother⟩

/-! ## In whatever order files are visited -/

/-- The files among those visited that the globs of a project take, each with what is shown of it.
-/
def takenAmong (p : Project) (visited : List Path) : List (ProjectPath × Path) :=
  (visited.map fun path => (ProjectPath.relativeTo p.dir path, path)).filter
    fun file => p.takes file.1

def rootsAmong (p : Project) (visited : List Path) : List Path :=
  ((p.takenAmong visited).mergeSort rootLe).eraseDups.map (·.2)

variable {d : Disk} {p : Project} {visited : List Path}

theorem roots_eq_rootsAmong (h : p.files = none) :
    p.roots d = p.rootsAmong (d.filesBelow p.dir) := roots_of_files_eq_none h

theorem eq_of_mem_takenAmong {file : ProjectPath × Path} (h : file ∈ p.takenAmong visited) :
    file.2 ∈ visited ∧ file = (ProjectPath.relativeTo p.dir file.2, file.2) := by
  obtain ⟨path, hpath, rfl⟩ := List.mem_map.1 (List.mem_filter.1 h).1
  exact ⟨hpath, rfl⟩

theorem pairwise_sorted (files : List (ProjectPath × Path)) :
    (files.mergeSort rootLe).Pairwise (rootLe · · = true) :=
  List.pairwise_mergeSort rootLe_trans rootLe_total files

/-- **The order in which files are visited makes no difference**, if their paths differ by their
steps. -/
theorem rootsAmong_of_perm {other : List Path} (hperm : visited.Perm other)
    (happart : ∀ a ∈ visited, ∀ b ∈ visited, a.components = b.components → a = b) :
    p.rootsAmong visited = p.rootsAmong other := by
  have htaken : (p.takenAmong visited).Perm (p.takenAmong other) := (hperm.map _).filter _
  have hsorted : (p.takenAmong visited).mergeSort rootLe = (p.takenAmong other).mergeSort rootLe := by
    refine List.Perm.eq_of_pairwise (fun a b ha hb hab hba => ?_) (pairwise_sorted _)
      (pairwise_sorted _) ((List.mergeSort_perm _ _).trans
        (htaken.trans (List.mergeSort_perm _ _).symm))
    obtain ⟨hshown, hsteps⟩ := rootLe_antisymm hab hba
    have ha' := (eq_of_mem_takenAmong (List.mem_mergeSort.1 ha)).1
    have hb' := (eq_of_mem_takenAmong (htaken.mem_iff.2 (List.mem_mergeSort.1 hb))).1
    exact Prod.ext hshown (happart _ ha' _ hb' hsteps)
  rw [rootsAmong, hsorted, rootsAmong]

theorem pairwise_rootsAmong (h : visited.Nodup) :
    (p.rootsAmong visited).Pairwise (ComesBefore p.dir) := by
  have honce : (p.takenAmong visited).Nodup :=
    (h.map fun a b hab => congrArg Prod.snd hab).filter _
  have hnodup := (List.mergeSort_perm (p.takenAmong visited) rootLe).nodup_iff.2 honce
  rw [rootsAmong, eraseDups_of_nodup hnodup, List.pairwise_map]
  refine List.Pairwise.imp_of_mem ?_ ((pairwise_sorted _).and hnodup)
  rintro a b ha hb ⟨hle, hne⟩
  have ha' := (eq_of_mem_takenAmong (List.mem_mergeSort.1 ha)).2
  have hb' := (eq_of_mem_takenAmong (List.mem_mergeSort.1 hb)).2
  refine comesBefore_of_rootLe (fun heq => hne ?_) ?_
  · rw [ha', hb', heq]
  · rw [← ha', ← hb']
    exact hle

/-- **The root files of a project that names none are the files below its directory that its globs
take, each once and in order, whatever the order in which they are visited or stand on the disk.** -/
theorem roots_enumerate (hd : d.IsOrderly) (hfiles : p.files = none) :
    (∀ path, path ∈ p.roots d ↔ ∃ names, d.HasFileBelow p.dir names ∧
      path = p.dir.join ⟨joinWith '/' names⟩ ∧
      Glob.anyMatch p.included (ProjectPath.ofChars (joinWith '/' names)).chars = true ∧
      Glob.anyMatch p.excluded (ProjectPath.ofChars (joinWith '/' names)).chars = false) ∧
    (p.roots d).Pairwise (ComesBefore p.dir) ∧
    (∀ visited, visited.Perm (d.filesBelow p.dir) → p.rootsAmong visited = p.roots d) ∧
    ∀ d' : Disk, d'.IsOrderly → d'.here = d.here → (∀ place, d'.find? place = d.find? place) →
      p.roots d' = p.roots d := by
  have happart : ∀ a ∈ d.filesBelow p.dir, ∀ b ∈ d.filesBelow p.dir,
      a.components = b.components → a = b := fun a ha b hb => Disk.eq_of_components_eq hd ha hb
  have hany : ∀ other, other.Perm (d.filesBelow p.dir) →
      p.rootsAmong other = p.rootsAmong (d.filesBelow p.dir) :=
    fun other hperm => (rootsAmong_of_perm hperm.symm happart).symm
  rw [roots_eq_rootsAmong hfiles]
  refine ⟨fun path => ?_, pairwise_rootsAmong (Disk.nodup_filesBelow hd p.dir), hany,
    fun d' hd' hhere hfind => ?_⟩
  · rw [← roots_eq_rootsAmong hfiles, mem_roots hfiles, Disk.mem_filesBelow hd]
    constructor
    · rintro ⟨⟨names, hfile, rfl⟩, htakes⟩
      rw [(hfile.leadBelow hd).relativeTo_join hfile.chars_ne_nil] at htakes
      simp only [takes, Bool.and_eq_true, Bool.not_eq_true'] at htakes
      exact ⟨names, hfile, rfl, htakes⟩
    · rintro ⟨names, hfile, rfl, htakes⟩
      refine ⟨⟨names, hfile, rfl⟩, ?_⟩
      rw [(hfile.leadBelow hd).relativeTo_join hfile.chars_ne_nil]
      simpa only [takes, Bool.and_eq_true, Bool.not_eq_true'] using htakes
  · rw [roots_eq_rootsAmong hfiles]
    exact hany _ (Disk.filesBelow_perm hd hd' hhere hfind p.dir)

/-- A directory with two files that are shown alike, one that comes before both although its first
name does not, and two that are not taken. -/
def crowded : Disk where
  entries := [([['p']], .dir), ([['p'], "a\\x.tree.json".toList], .file .empty),
    ([['p'], "node_modules".toList], .dir),
    ([['p'], "node_modules".toList, "x.tree.json".toList], .file .empty),
    ([['p'], ['a']], .dir), ([['p'], ['a'], "x.tree.json".toList], .file .empty),
    ([['p'], "notes".toList], .file .empty), ([['p'], "a-b".toList], .dir),
    ([['p'], "a-b".toList, "x.tree.json".toList], .file .empty)]
  here := []

def crowd : List Path :=
  [.ofString "/p/notes", .ofString "/p/node_modules/x.tree.json", .ofString "/p/a-b/x.tree.json",
    .ofString "/p/a/x.tree.json", .ofString "/p/a\\x.tree.json"]

theorem roots_enumerate_crowded : ∃ p, ofConfig {} oneSourceKey = .ok p ∧
    p.roots crowded = [.ofString "/p/a-b/x.tree.json", .ofString "/p/a/x.tree.json",
      .ofString "/p/a\\x.tree.json"] := by
  obtain ⟨p, hp, hfiles, hperm, hordered, hroots⟩ : ∃ p, ofConfig {} oneSourceKey = .ok p ∧
      p.files = none ∧ crowd.Perm (crowded.filesBelow p.dir) ∧
      (p.takenAmong crowd).Pairwise (rootLe · · = true) ∧
      (p.takenAmong crowd).eraseDups.map (·.2) =
        [.ofString "/p/a-b/x.tree.json", .ofString "/p/a/x.tree.json",
          .ofString "/p/a\\x.tree.json"] :=
    exists_of_any (by decide +kernel)
  have horderly : crowded.IsOrderly := ⟨by decide, by decide⟩
  obtain ⟨-, -, hany, -⟩ := roots_enumerate horderly hfiles
  refine ⟨p, hp, ?_⟩
  -- the files were visited in order, so sorting them changes nothing
  rw [← hany _ hperm, rootsAmong, List.mergeSort_of_pairwise hordered, hroots]

end Project

end Conformance
