import Conformance.Proofs.Disk.Follow
import Mathlib.Logic.Relation
/-!
# Saving files

Saving adds to the disk: directories are made where nothing was, and a file goes where nothing or
another file was.  These two are the edits that saving is made of (`Edit`), and what is known of a
disk after saving is shown of one edit and carried over the run.  Every path that leads somewhere
keeps leading there, and a path may come to lead somewhere because a directory on its way was made
(`Grows`).  Every file of the new disk was there before or is what the path that was saved leads to
(`Wrote`), and every directory was there before or is one that this path goes through.
-/
namespace Conformance

/-- The directories that a path goes through, as it is written: the last one first. -/
def Path.above (p : Path) : List Path :=
  match p.parent with
  | none => []
  | some dir => dir.ancestors

namespace Disk

open Relation (ReflTransGen)

def place? (d : Disk) (p : Path) : Option Place := (d.resolve p).toOption.map (·.1)

theorem place?_eq_some {d : Disk} {p : Path} {place : Place} :
    d.place? p = some place ↔ ∃ e, d.resolve p = .ok (place, e) := by
  unfold place?
  cases hr : d.resolve p with
  | error e => simp [Except.toOption]
  | ok spot =>
    obtain ⟨place', e⟩ := spot
    simp [Except.toOption]

def meet (d : Disk) (p q : Path) : Bool := (d.place? p).isSome && d.place? p == d.place? q

theorem meet_of_place? {d : Disk} {p q : Path} {place : Place} (hp : d.place? p = some place)
    (hq : d.place? q = some place) : d.meet p q = true := by
  simp [meet, hp, hq]

/-- One disk is another with more on it. A file may hold something else. -/
structure Grows (d d' : Disk) : Prop where
  here : d'.here = d.here
  dirs : ∀ place, d.find? place = some .dir → d'.find? place = some .dir
  files : ∀ place bytes, d.find? place = some (.file bytes) →
    ∃ bytes', d'.find? place = some (.file bytes')

namespace Grows

theorem refl (d : Disk) : Grows d d := ⟨rfl, fun _ h => h, fun _ bytes h => ⟨bytes, h⟩⟩

theorem trans {d d' d'' : Disk} (h : Grows d d') (h' : Grows d' d'') : Grows d d'' := by
  refine ⟨h'.here.trans h.here, fun place hd => h'.dirs place (h.dirs place hd), ?_⟩
  intro place bytes hf
  obtain ⟨bytes', hf'⟩ := h.files place bytes hf
  exact h'.files place bytes' hf'

theorem find? {d d' : Disk} (h : Grows d d') {place : Place} {e : Entry}
    (he : d.find? place = some e) : ∃ e', d'.find? place = some e' ∧ (e' = .dir ↔ e = .dir) := by
  cases e with
  | dir => exact ⟨.dir, h.dirs place he, Iff.rfl⟩
  | file bytes =>
    obtain ⟨bytes', he'⟩ := h.files place bytes he
    exact ⟨.file bytes', he', by simp⟩

theorem start {d d' : Disk} (h : Grows d d') (p : Path) : d'.start p = d.start p := by
  unfold Disk.start
  rw [h.here]

theorem step {d d' : Disk} (h : Grows d d') {spot next : Place × Entry} {piece : List Char}
    (hs : d.step spot piece = .ok next) :
    ∃ e, d'.step spot piece = .ok (next.1, e) ∧ (e = .dir ↔ next.2 = .dir) := by
  obtain ⟨hdir, hnext | hnext | ⟨hidle, hup, hshort, hplace, hfind⟩⟩ := step_eq_ok.1 hs
  · exact ⟨next.2, step_eq_ok.2 ⟨hdir, .inl hnext⟩, Iff.rfl⟩
  · exact ⟨next.2, step_eq_ok.2 ⟨hdir, .inr (.inl hnext)⟩, Iff.rfl⟩
  · obtain ⟨e, he, hkind⟩ := h.find? hfind
    exact ⟨e, step_eq_ok.2 ⟨hdir, .inr (.inr ⟨hidle, hup, hshort, hplace, he⟩)⟩, hkind⟩

theorem follow {d d' : Disk} (h : Grows d d') : ∀ {pieces : List (List Char)} {place : Place}
    {e e' : Entry} {last : Place × Entry}, (e' = .dir ↔ e = .dir) →
      d.follow (place, e) pieces = .ok last →
      ∃ f, d'.follow (place, e') pieces = .ok (last.1, f) ∧ (f = .dir ↔ last.2 = .dir)
  | [], place, e, e', last, hkind, hf => by
    cases hf
    exact ⟨e', rfl, hkind⟩
  | piece :: pieces, place, e, e', last, hkind, hf => by
    obtain ⟨next, hstep, hrest⟩ := follow_cons_ok hf
    have hdir : e = .dir := (step_eq_ok.1 hstep).1
    subst hdir
    rw [hkind.2 rfl]
    obtain ⟨f, hstep', hkind'⟩ := h.step hstep
    rw [Disk.follow, hstep']
    exact h.follow hkind' hrest

/-- **What a path leads to stays there.** -/
theorem resolve {d d' : Disk} (h : Grows d d') {p : Path} {place : Place} {e : Entry}
    (hr : d.resolve p = .ok (place, e)) :
    ∃ e', d'.resolve p = .ok (place, e') ∧ (e' = .dir ↔ e = .dir) := by
  obtain ⟨hcheck, hfollow⟩ := follow_of_resolve hr
  unfold Disk.resolve
  rw [hcheck, h.start]
  exact h.follow Iff.rfl hfollow

theorem resolve_dir {d d' : Disk} (h : Grows d d') {p : Path} {place : Place}
    (hr : d.resolve p = .ok (place, .dir)) : d'.resolve p = .ok (place, .dir) := by
  obtain ⟨e, hr', hkind⟩ := h.resolve hr
  rw [hkind.2 rfl] at hr'
  exact hr'

theorem resolve_file {d d' : Disk} (h : Grows d d') {p : Path} {place : Place} {bytes : ByteArray}
    (hr : d.resolve p = .ok (place, .file bytes)) :
    ∃ bytes', d'.resolve p = .ok (place, .file bytes') := by
  obtain ⟨e, hr', hkind⟩ := h.resolve hr
  cases e with
  | dir => exact absurd (hkind.1 rfl) (by simp)
  | file bytes' => exact ⟨bytes', hr'⟩

theorem holds {d d' : Disk} (h : Grows d d') {p : Path} (hp : d.holds p = true) :
    d'.holds p = true := by
  obtain ⟨⟨place, e⟩, hr⟩ := holds_iff.1 hp
  obtain ⟨e', hr', -⟩ := h.resolve hr
  exact holds_iff.2 ⟨_, hr'⟩

theorem place? {d d' : Disk} (h : Grows d d') {p : Path} {place : Place}
    (hp : d.place? p = some place) : d'.place? p = some place := by
  obtain ⟨e, hr⟩ := place?_eq_some.1 hp
  obtain ⟨e', hr', -⟩ := h.resolve hr
  exact place?_eq_some.2 ⟨e', hr'⟩

end Grows

/-- One disk is another on which files were saved at no other paths than these. -/
structure Wrote (paths : List Path) (d d' : Disk) : Prop where
  grows : Grows d d'
  stood : ∀ place bytes, d'.find? place = some (.file bytes) →
    d.find? place = some (.file bytes) ∨ ∃ p ∈ paths, d'.place? p = some place

namespace Wrote

theorem refl (d : Disk) : Wrote [] d d := ⟨.refl d, fun _ _ h => .inl h⟩

theorem trans {ps qs : List Path} {d d' d'' : Disk} (h : Wrote ps d d') (h' : Wrote qs d' d'') :
    Wrote (ps ++ qs) d d'' := by
  refine ⟨h.grows.trans h'.grows, fun place bytes hf => ?_⟩
  rcases h'.stood place bytes hf with hf | ⟨q, hq, hplace⟩
  · rcases h.stood place bytes hf with hf | ⟨p, hp, hplace⟩
    · exact .inl hf
    · exact .inr ⟨p, List.mem_append_left qs hp, h'.grows.place? hplace⟩
  · exact .inr ⟨q, List.mem_append_right ps hq, hplace⟩

theorem mono {ps qs : List Path} {d d' : Disk} (h : Wrote ps d d') (hsub : ps ⊆ qs) :
    Wrote qs d d' := by
  refine ⟨h.grows, fun place bytes hf => ?_⟩
  rcases h.stood place bytes hf with hf | ⟨p, hp, hplace⟩
  · exact .inl hf
  · exact .inr ⟨p, hsub hp, hplace⟩

end Wrote

theorem meet_eq_false {d : Disk} {p q : Path} {place : Place} (h : d.meet p q = false)
    (hp : d.place? p = some place) : d.place? q ≠ some place := by
  intro hq
  rw [meet_of_place? hp hq] at h
  cases h

namespace Wrote

variable {paths : List Path} {d d' : Disk}

/-- **What a path leads to is as it was, unless a file was saved there.** -/
theorem resolve (h : Wrote paths d d') {p : Path} {spot : Place × Entry}
    (hr : d.resolve p = .ok spot) (hapart : ∀ w ∈ paths, d'.meet p w = false) :
    d'.resolve p = .ok spot := by
  obtain ⟨place, e⟩ := spot
  cases e with
  | dir => exact h.grows.resolve_dir hr
  | file bytes =>
    obtain ⟨bytes', hr'⟩ := h.grows.resolve_file hr
    rcases h.stood place bytes' (find?_of_resolve hr') with hstood | ⟨w, hw, hplace⟩
    · cases hstood.symm.trans (find?_of_resolve hr)
      exact hr'
    · exact absurd hplace (meet_eq_false (hapart w hw) (place?_eq_some.2 ⟨_, hr'⟩))

theorem readText (h : Wrote paths d d') {p : Path} {s : String} (hr : d.readText p = .ok s)
    (hapart : ∀ w ∈ paths, d'.meet p w = false) : d'.readText p = .ok s := by
  obtain ⟨place, bytes, hres, htext⟩ := readText_eq_ok.1 hr
  exact readText_eq_ok.2 ⟨place, bytes, h.resolve hres hapart, htext⟩

end Wrote

/-! ## Edits -/

theorem Target.place_ne_nil (t : Target) : t.place ≠ [] := by simp [Target.place]

/-- What saving does to a disk at a time: a directory is made where nothing is, or a file is put
where no directory is. -/
inductive Edit (dirs : Path → Prop) (files : List Path) (d : Disk) : Disk → Prop
  | dir {p : Path} {t : Target} : dirs p → d.target p = .ok (some t) → isLongName t.name = false →
      d.find? t.place = none → Edit dirs files d (d.put t.place .dir)
  | file {p : Path} {t : Target} (bytes : ByteArray) : p ∈ files → d.target p = .ok (some t) →
      t.slashed = false → isLongName t.name = false → d.find? t.place ≠ some .dir →
      Edit dirs files d (d.put t.place (.file bytes))

abbrev Edits (dirs : Path → Prop) (files : List Path) : Disk → Disk → Prop :=
  ReflTransGen (Edit dirs files)

variable {dirs dirs' : Path → Prop} {files files' : List Path}

theorem Edit.mono {d d' : Disk} (h : Edit dirs files d d') (hdirs : ∀ p, dirs p → dirs' p)
    (hfiles : files ⊆ files') : Edit dirs' files' d d' := by
  cases h with
  | dir hp htarget hshort hfind => exact .dir (hdirs _ hp) htarget hshort hfind
  | file bytes hp htarget hslash hshort hfind =>
    exact .file bytes (hfiles hp) htarget hslash hshort hfind

theorem Edits.mono {d d' : Disk} (h : Edits dirs files d d') (hdirs : ∀ p, dirs p → dirs' p)
    (hfiles : files ⊆ files') : Edits dirs' files' d d' := by
  have hle : Edit dirs files ≤ Edit dirs' files' := fun _ _ hedit => hedit.mono hdirs hfiles
  exact ReflTransGen.mono hle d d' h

theorem grows_put {d : Disk} {place : Place} {e : Entry} (hne : place ≠ [])
    (h : ∀ old, d.find? place = some old → ∃ bytes bytes', old = .file bytes ∧ e = .file bytes') :
    Grows d (d.put place e) := by
  refine ⟨rfl, fun other hd => ?_, fun other bytes hf => ?_⟩
  · by_cases ho : place = other
    · subst ho
      obtain ⟨_, _, hold, -⟩ := h _ hd
      cases hold
    · rw [find?_put_of_ne d ho]
      exact hd
  · by_cases ho : place = other
    · subst ho
      obtain ⟨_, bytes', -, rfl⟩ := h _ hf
      exact ⟨bytes', find?_put_self d hne _⟩
    · exact ⟨bytes, by rw [find?_put_of_ne d ho]; exact hf⟩

theorem grows_put_dir {d : Disk} {place : Place} (hne : place ≠ [])
    (h : d.find? place = none) : Grows d (d.put place .dir) := by
  refine grows_put hne fun old hold => ?_
  rw [h] at hold
  cases hold

theorem grows_put_file {d : Disk} {place : Place} (hne : place ≠ []) (bytes : ByteArray)
    (h : d.find? place ≠ some .dir) : Grows d (d.put place (.file bytes)) := by
  refine grows_put hne fun old hold => ?_
  cases old with
  | dir => exact absurd hold h
  | file bytes' => exact ⟨bytes', bytes, rfl, rfl⟩

theorem Edit.grows {d d' : Disk} (h : Edit dirs files d d') : Grows d d' := by
  cases h with
  | dir _ _ _ hfind => exact grows_put_dir (Target.place_ne_nil _) hfind
  | file bytes _ _ _ _ hfind => exact grows_put_file (Target.place_ne_nil _) bytes hfind

theorem follow_empty (d : Disk) (place : Place) : ∀ {pieces : List (List Char)},
    (∀ piece ∈ pieces, piece = []) → d.follow (place, .dir) pieces = .ok (place, .dir)
  | [], _ => rfl
  | piece :: pieces, h => by
    have hstep : d.step (place, .dir) piece = .ok (place, .dir) := by
      rw [h piece List.mem_cons_self]
      rfl
    rw [follow, hstep]
    exact follow_empty d place fun p hp => h p (List.mem_cons_of_mem piece hp)

theorem resolve_put_target {d : Disk} {p : Path} {t : Target} {e : Entry}
    (h : d.target p = .ok (some t)) (hslash : e = .dir ∨ t.slashed = false)
    (hshort : isLongName t.name = false) (hgrows : Grows d (d.put t.place e)) :
    (d.put t.place e).resolve p = .ok (t.place, e) := by
  obtain ⟨before, rest, hcheck, hall, hbefore, hidle, hup, hempty, hrest⟩ := target_some h
  have hbefore' : (d.put t.place e).follow (d.start p) before = .ok (t.dir, .dir) := by
    obtain ⟨f, hf, hkind⟩ := hgrows.follow Iff.rfl hbefore
    rw [hkind.2 rfl] at hf
    exact hf
  have hname : (d.put t.place e).step (t.dir, .dir) t.name = .ok (t.place, e) :=
    step_eq_ok.2 ⟨rfl, .inr (.inr ⟨hidle, hup, hshort, rfl, find?_put_self d t.place_ne_nil _⟩)⟩
  have hend : (d.put t.place e).follow (t.place, e) rest = .ok (t.place, e) := by
    rcases hslash with rfl | hslash
    · exact follow_empty _ _ hempty
    · rw [hrest hslash]
      rfl
  have hstart : (d.put t.place e).start p = d.start p := rfl
  unfold resolve
  rw [hcheck]
  dsimp only
  rw [← follow_piecesWithDot, hall, follow_append, hstart, hbefore']
  simp only [Except.bind, follow, hname, hend]

theorem Edit.place? {d d' : Disk} (h : Edit dirs files d d') {place : Place} {e : Entry}
    (he : d'.find? place = some e) : d.find? place = some e ∨
      (e = .dir ∧ ∃ a, dirs a ∧ d'.place? a = some place) ∨
      (∃ bytes, e = .file bytes) ∧ ∃ p ∈ files, d'.place? p = some place := by
  have hgrows := h.grows
  cases h with
  | @dir p t hp htarget hshort hfind =>
    by_cases ho : t.place = place
    · subst ho
      rw [find?_put_self d t.place_ne_nil] at he
      cases he
      exact .inr (.inl ⟨rfl, p, hp, place?_eq_some.2 ⟨.dir,
        resolve_put_target htarget (.inl rfl) hshort hgrows⟩⟩)
    · rw [find?_put_of_ne d ho] at he
      exact .inl he
  | @file p t bytes hp htarget hslash hshort hfind =>
    by_cases ho : t.place = place
    · subst ho
      rw [find?_put_self d t.place_ne_nil] at he
      cases he
      exact .inr (.inr ⟨⟨bytes, rfl⟩, p, hp, place?_eq_some.2 ⟨_,
        resolve_put_target htarget (.inr hslash) hshort hgrows⟩⟩)
    · rw [find?_put_of_ne d ho] at he
      exact .inl he

theorem Edit.wrote {d d' : Disk} (h : Edit dirs files d d') : Wrote files d d' := by
  refine ⟨h.grows, fun place bytes hf => ?_⟩
  rcases h.place? hf with hf | ⟨hdir, -⟩ | ⟨-, hp⟩
  · exact .inl hf
  · cases hdir
  · exact .inr hp

/-- **Edits write files at their paths and nowhere else.** -/
theorem Edits.wrote {d d' : Disk} (h : Edits dirs files d d') : Wrote files d d' := by
  induction h with
  | refl => exact (Wrote.refl d).mono (List.nil_subset files)
  | tail _ hedit ih =>
    exact (ih.trans hedit.wrote).mono (List.append_subset.2 ⟨List.Subset.refl _, List.Subset.refl _⟩)

theorem Edits.made {d d' : Disk} (h : Edits dirs files d d') {place : Place}
    (hdir : d'.find? place = some .dir) :
    d.find? place = some .dir ∨ ∃ a, dirs a ∧ d'.place? a = some place := by
  induction h with
  | refl => exact .inl hdir
  | tail _ hedit ih =>
    rcases hedit.place? hdir with hdir | ⟨-, ha⟩ | ⟨⟨_, hfile⟩, -⟩
    · rcases ih hdir with hdir | ⟨a, ha, hplace⟩
      · exact .inl hdir
      · exact .inr ⟨a, ha, hedit.grows.place? hplace⟩
    · exact .inr ha
    · cases hfile

/-! ## Directories -/

theorem edits_makeDir {p : Path} (hp : dirs p) (d : Disk) : Edits dirs files d (d.makeDir p).2 := by
  unfold makeDir
  split
  · exact .refl
  · exact .refl
  · rename_i t htarget
    split
    · exact .refl
    · rename_i hshort
      split
      · exact .refl
      · rename_i hfind
        exact .single (.dir hp htarget (by simpa using hshort) hfind)

theorem edits_ensureDir {p : Path} (hp : dirs p) (d : Disk) :
    Edits dirs files d (d.ensureDir p).2 := by
  have hmake : Edits dirs files d (d.makeDir p).2 := edits_makeDir hp d
  unfold ensureDir
  split
  · rename_i e d' hd'
    rw [hd'] at hmake
    split <;> exact hmake
  · exact hmake

theorem edits_ensureChain : ∀ {ps : List Path}, (∀ p ∈ ps, dirs p) → ∀ d : Disk,
    Edits dirs files d (d.ensureChain ps).2
  | [], _, d => .refl
  | p :: above, hps, d => by
    have hp := hps p List.mem_cons_self
    have hmake : Edits dirs files d (d.makeDir p).2 := edits_makeDir hp d
    rw [ensureChain]
    split
    · exact .refl
    · split
      · rename_i d' hd'
        rw [hd'] at hmake
        exact hmake
      · rename_i d' hd'
        rw [hd'] at hmake
        have habove : Edits dirs files d' (d'.ensureChain above).2 :=
          edits_ensureChain (fun q hq => hps q (List.mem_cons_of_mem p hq)) d'
        split
        · rename_i e d'' hd''
          rw [hd''] at habove
          exact hmake.trans habove
        · rename_i d'' hd''
          rw [hd''] at habove
          exact (hmake.trans habove).trans (edits_ensureDir hp d'')
      · rename_i d' _ hd'
        rw [hd'] at hmake
        split <;> exact hmake

theorem edits_ensureParent (d : Disk) (p : Path) :
    Edits (· ∈ p.above) files d (d.ensureParent p).2 := by
  unfold ensureParent
  split
  · exact .refl
  · rename_i dir hdir
    have habove : ∀ a ∈ dir.ancestors, a ∈ p.above := by
      intro a ha
      rw [Path.above, hdir]
      exact ha
    have hdirs : Edits (· ∈ p.above) files d (d.ensureDirs dir).2 := edits_ensureChain habove d
    split
    · rename_i e d' hd'
      rw [hd'] at hdirs
      exact hdirs
    · rename_i d' hd'
      rw [hd'] at hdirs
      exact hdirs

/-! ## Files -/

/-- **What writing can do**: nothing, or one edit, after which the path leads to what was
written. -/
theorem write_cases (d : Disk) (p : Path) (bytes : ByteArray) :
    (∃ e, d.write p bytes = (.error e, d)) ∨ ∃ d' place, d.write p bytes = (.ok (), d') ∧
      Edit dirs [p] d d' ∧ d'.resolve p = .ok (place, .file bytes) := by
  unfold write
  split
  · exact .inl ⟨_, rfl⟩
  · exact .inl ⟨_, rfl⟩
  · rename_i t htarget
    split
    · exact .inl ⟨_, rfl⟩
    · rename_i hslash
      have hslash : t.slashed = false := by simpa using hslash
      split
      · exact .inl ⟨_, rfl⟩
      · rename_i hshort
        have hshort : isLongName t.name = false := by simpa using hshort
        split
        · exact .inl ⟨_, rfl⟩
        · rename_i hdir
          refine .inr ⟨_, t.place, rfl, .file bytes List.mem_cons_self htarget hslash hshort hdir, ?_⟩
          exact resolve_put_target htarget (.inr hslash) hshort
            (grows_put_file t.place_ne_nil bytes hdir)

/-- **What saving can do**: it makes directories that its path goes through, and then it fails, or
the path leads to what was saved. -/
theorem save_cases (d : Disk) (p : Path) (s : String) :
    (∃ e d', d.save p s = (.error e, d') ∧ Edits (· ∈ p.above) [] d d') ∨
      ∃ d' place, d.save p s = (.ok (), d') ∧ Edits (· ∈ p.above) [p] d d' ∧
        d'.resolve p = .ok (place, .file s.toUTF8) := by
  unfold save
  rcases hd' : d.ensureParent p with ⟨r, d'⟩
  have hparent : ∀ {files : List Path}, Edits (· ∈ p.above) files d d' := by
    intro files
    have h : Edits (· ∈ p.above) files d (d.ensureParent p).2 := d.edits_ensureParent p
    rw [hd'] at h
    exact h
  cases r with
  | error e => exact .inl ⟨e, d', rfl, hparent⟩
  | ok u =>
    dsimp only [writeText]
    rcases write_cases d' p s.toUTF8 with ⟨e, hw⟩ | ⟨d'', place, hw, hedit, hres⟩
    · rw [hw]
      exact .inl ⟨_, d', rfl, hparent⟩
    · rw [hw]
      exact .inr ⟨d'', place, rfl, hparent.tail hedit, hres⟩

/-- Files were saved at these paths, with the directories that it took. -/
abbrev Saves (files : List Path) : Disk → Disk → Prop := Edits (fun _ => True) files

theorem Edits.saves {d d' : Disk} (h : Edits dirs files d d') (hfiles : files ⊆ files') :
    Saves files' d d' := h.mono (fun _ _ => trivial) hfiles

end Disk

end Conformance
