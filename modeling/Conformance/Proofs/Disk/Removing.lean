import Conformance.Proofs.Disk.Follow
/-!
# Removing files

Removing a file takes one entry off the disk and leaves every directory where it is.  So a path
that leads somewhere afterwards led to the same before, and a path that led to a directory still
does; and a path whose file was removed, or was not found, leads nowhere from then on.
-/
namespace Conformance

namespace Disk

/-- One disk is another without some of its files. -/
structure Shrinks (d d' : Disk) : Prop where
  here : d'.here = d.here
  stood : ∀ place e, d'.find? place = some e → d.find? place = some e
  dirs : ∀ place, d.find? place = some .dir → d'.find? place = some .dir

namespace Shrinks

theorem refl (d : Disk) : Shrinks d d := ⟨rfl, fun _ _ h => h, fun _ h => h⟩

theorem trans {d d' d'' : Disk} (h : Shrinks d d') (h' : Shrinks d' d'') : Shrinks d d'' :=
  ⟨h'.here.trans h.here, fun place e he => h.stood place e (h'.stood place e he),
    fun place hd => h'.dirs place (h.dirs place hd)⟩

theorem start {d d' : Disk} (h : Shrinks d d') (p : Path) : d'.start p = d.start p := by
  unfold Disk.start
  rw [h.here]

theorem step {d d' : Disk} (h : Shrinks d d') {spot next : Place × Entry} {piece : List Char}
    (hs : d'.step spot piece = .ok next) : d.step spot piece = .ok next := by
  obtain ⟨hdir, hnext | hnext | ⟨hidle, hup, hshort, hplace, hfind⟩⟩ := step_eq_ok.1 hs
  · exact step_eq_ok.2 ⟨hdir, .inl hnext⟩
  · exact step_eq_ok.2 ⟨hdir, .inr (.inl hnext)⟩
  · exact step_eq_ok.2 ⟨hdir, .inr (.inr ⟨hidle, hup, hshort, hplace, h.stood _ _ hfind⟩)⟩

theorem follow {d d' : Disk} (h : Shrinks d d') : ∀ {pieces : List (List Char)}
    {spot last : Place × Entry}, d'.follow spot pieces = .ok last → d.follow spot pieces = .ok last
  | [], _, _, hf => hf
  | piece :: pieces, spot, last, hf => by
    obtain ⟨next, hstep, hrest⟩ := follow_cons_ok hf
    rw [Disk.follow, h.step hstep]
    exact h.follow hrest

/-- **What a path leads to on the smaller disk, it led to before.** -/
theorem resolve {d d' : Disk} (h : Shrinks d d') {p : Path} {spot : Place × Entry}
    (hr : d'.resolve p = .ok spot) : d.resolve p = .ok spot := by
  obtain ⟨hcheck, hfollow⟩ := follow_of_resolve hr
  rw [h.start] at hfollow
  unfold Disk.resolve
  rw [hcheck]
  exact h.follow hfollow

theorem step_dir {d d' : Disk} (h : Shrinks d d') {spot : Place × Entry} {piece : List Char}
    {place : Place} (hs : d.step spot piece = .ok (place, .dir)) :
    d'.step spot piece = .ok (place, .dir) := by
  obtain ⟨hdir, hnext | hnext | ⟨hidle, hup, hshort, hplace, hfind⟩⟩ := step_eq_ok.1 hs
  · exact step_eq_ok.2 ⟨hdir, .inl hnext⟩
  · exact step_eq_ok.2 ⟨hdir, .inr (.inl hnext)⟩
  · exact step_eq_ok.2 ⟨hdir, .inr (.inr ⟨hidle, hup, hshort, hplace, h.dirs _ hfind⟩)⟩

theorem follow_dir {d d' : Disk} (h : Shrinks d d') : ∀ {pieces : List (List Char)}
    {spot : Place × Entry} {place : Place}, d.follow spot pieces = .ok (place, .dir) →
      d'.follow spot pieces = .ok (place, .dir)
  | [], _, _, hf => hf
  | piece :: pieces, spot, place, hf => by
    obtain ⟨⟨at_, e⟩, hstep, hrest⟩ := follow_cons_ok hf
    have hdir : e = .dir := by
      cases pieces with
      | nil =>
        cases hrest
        rfl
      | cons piece' pieces =>
        obtain ⟨_, hstep', -⟩ := follow_cons_ok hrest
        exact (step_eq_ok.1 hstep').1
    subst hdir
    rw [Disk.follow, h.step_dir hstep]
    exact h.follow_dir hrest

theorem resolve_dir {d d' : Disk} (h : Shrinks d d') {p : Path} {place : Place}
    (hr : d.resolve p = .ok (place, .dir)) : d'.resolve p = .ok (place, .dir) := by
  obtain ⟨hcheck, hfollow⟩ := follow_of_resolve hr
  unfold Disk.resolve
  rw [hcheck, h.start]
  exact h.follow_dir hfollow

theorem follow_kept {d d' : Disk} (h : Shrinks d d') : ∀ {pieces : List (List Char)}
    {spot : Place × Entry} {place : Place} {e : Entry}, d.follow spot pieces = .ok (place, e) →
      d'.find? place = some e → d'.follow spot pieces = .ok (place, e)
  | [], _, _, _, hf, _ => hf
  | [piece], spot, place, e, hf, hkept => by
    obtain ⟨next, hstep, hrest⟩ := follow_cons_ok hf
    cases hrest
    have hstep' : d'.step spot piece = .ok (place, e) := by
      obtain ⟨hdir, hnext | hnext | ⟨hidle, hup, hshort, hplace, -⟩⟩ := step_eq_ok.1 hstep
      · exact step_eq_ok.2 ⟨hdir, .inl hnext⟩
      · exact step_eq_ok.2 ⟨hdir, .inr (.inl hnext)⟩
      · exact step_eq_ok.2 ⟨hdir, .inr (.inr ⟨hidle, hup, hshort, hplace, hkept⟩)⟩
    rw [Disk.follow, hstep']
    rfl
  | piece :: piece' :: pieces, spot, place, e, hf, hkept => by
    obtain ⟨⟨at_, e'⟩, hstep, hrest⟩ := follow_cons_ok hf
    obtain ⟨_, hstep', -⟩ := follow_cons_ok hrest
    have hdir : e' = .dir := (step_eq_ok.1 hstep').1
    subst hdir
    rw [Disk.follow, h.step_dir hstep]
    exact h.follow_kept hrest hkept

theorem resolve_kept {d d' : Disk} (h : Shrinks d d') {p : Path} {place : Place} {e : Entry}
    (hr : d.resolve p = .ok (place, e)) (hkept : d'.find? place = some e) :
    d'.resolve p = .ok (place, e) := by
  obtain ⟨hcheck, hfollow⟩ := follow_of_resolve hr
  unfold Disk.resolve
  rw [hcheck, h.start]
  exact h.follow_kept hfollow hkept

/-- **A file that is out of reach of a path which led to it is gone.** -/
theorem find?_eq_none {d d' : Disk} (h : Shrinks d d') {p : Path} {place : Place}
    {bytes : ByteArray} (hr : d.resolve p = .ok (place, .file bytes))
    (hp : d'.holds p = false) : d'.find? place = none := by
  cases hfind : d'.find? place with
  | none => rfl
  | some e =>
    have hfile := find?_of_resolve hr
    cases (h.stood place e hfind).symm.trans hfile
    rw [holds_iff.2 ⟨_, h.resolve_kept hr hfind⟩] at hp
    cases hp

theorem isDir {d d' : Disk} (h : Shrinks d d') (p : Path) : d'.isDir p = d.isDir p := by
  rw [Bool.eq_iff_iff, isDir_iff, isDir_iff]
  constructor
  · rintro ⟨place, hr⟩
    exact ⟨place, h.resolve hr⟩
  · rintro ⟨place, hr⟩
    exact ⟨place, h.resolve_dir hr⟩

theorem readText {d d' : Disk} (h : Shrinks d d') {p : Path} {s : String}
    (hr : d'.readText p = .ok s) : d.readText p = .ok s := by
  obtain ⟨place, bytes, hres, htext⟩ := readText_eq_ok.1 hr
  exact readText_eq_ok.2 ⟨place, bytes, h.resolve hres, htext⟩

theorem holds {d d' : Disk} (h : Shrinks d d') {p : Path} (hp : d.holds p = false) :
    d'.holds p = false := by
  by_contra hd'
  obtain ⟨spot, hr⟩ := holds_iff.1 (by simpa using hd')
  rw [holds_iff.2 ⟨spot, h.resolve hr⟩] at hp
  cases hp

theorem isTree {d d' : Disk} (h : Shrinks d d') (htree : d.IsTree) : d'.IsTree :=
  fun place name e he => h.dirs place (htree place name e (h.stood _ e he))

end Shrinks

theorem shrinks_erase {d : Disk} {place : Place} {bytes : ByteArray}
    (h : d.find? place = some (.file bytes)) : Shrinks d (d.erase place) := by
  have hne : place ≠ [] := by
    rintro rfl
    rw [find?_nil] at h
    cases h
  refine ⟨rfl, fun other e he => ?_, fun other hd => ?_⟩
  · by_cases ho : place = other
    · subst ho
      rw [find?_erase_self d hne] at he
      cases he
    · rw [← find?_erase_of_ne d ho]
      exact he
  · have ho : place ≠ other := by
      rintro rfl
      rw [h] at hd
      cases hd
    rw [find?_erase_of_ne d ho]
    exact hd

/-- **What removing a file can do**: it takes away what its path leads to, or nothing; and if
nothing was found, then the path leads nowhere. -/
theorem removeFile_cases (d : Disk) (p : Path) :
    (∃ e, d.removeFile p = (.error e, d) ∧ (e = .notFound → d.holds p = false)) ∨
      ∃ place bytes, d.resolve p = .ok (place, .file bytes) ∧
        d.removeFile p = (.ok (), d.erase place) := by
  unfold removeFile
  split
  · rename_i e htarget
    obtain ⟨e', hr⟩ := resolve_of_target_error htarget
    exact .inl ⟨e, rfl, fun _ => holds_eq_false hr⟩
  · exact .inl ⟨_, rfl, fun h => by cases h⟩
  · rename_i t htarget
    obtain ⟨rest, hres, hrest⟩ := resolve_of_target htarget
    split
    · exact .inl ⟨_, rfl, fun h => by cases h⟩
    · rename_i hshort
      have hshort : isLongName t.name = false := by simpa using hshort
      split
      · rename_i hfind
        rw [child_of_none hshort hfind] at hres
        exact .inl ⟨_, rfl, fun _ => holds_eq_false hres⟩
      · exact .inl ⟨_, rfl, fun h => by cases h⟩
      · rename_i bytes hfind
        split
        · exact .inl ⟨_, rfl, fun h => by cases h⟩
        · rename_i hslash
          have hchild : d.child t.dir t.name = .ok (t.place, .file bytes) :=
            child_eq_ok.2 ⟨hshort, rfl, hfind⟩
          rw [hchild, hrest (by simpa using hslash)] at hres
          exact .inr ⟨t.place, bytes, hres, rfl⟩

theorem shrinks_removeFile (d : Disk) (p : Path) : Shrinks d (d.removeFile p).2 := by
  rcases removeFile_cases d p with ⟨e, h, -⟩ | ⟨place, bytes, hres, h⟩
  · rw [h]
    exact .refl d
  · rw [h]
    exact shrinks_erase (find?_of_resolve hres)

theorem holds_removeFile {d d' : Disk} {p : Path} {r : Except DiskError Unit}
    (h : d.removeFile p = (r, d')) (hr : r = .ok () ∨ r = .error .notFound) :
    d'.holds p = false := by
  have hshrinks := shrinks_removeFile d p
  rcases removeFile_cases d p with ⟨e, he, hnot⟩ | ⟨place, bytes, hres, he⟩
  · rw [h] at he hshrinks
    cases he
    rcases hr with hr | hr
    · cases hr
    · cases hr
      exact hnot rfl
  · rw [h] at he hshrinks
    cases he
    by_contra hholds
    -- What the path leads to now it led to before, and that is what was erased.
    obtain ⟨spot, hspot⟩ := holds_iff.1 (by simpa using hholds)
    have hsame := Except.ok.inj ((hshrinks.resolve hspot).symm.trans hres)
    subst hsame
    have hfind := find?_of_resolve hspot
    have hne : place ≠ [] := by
      rintro rfl
      cases (find?_nil d).symm.trans (find?_of_resolve hres)
    rw [find?_erase_self d hne] at hfind
    cases hfind

end Disk

end Conformance
