import Conformance.Proofs.Disk.Saving
import Conformance.Proofs.Disk.Spelling
/-!
# Listing files

The files below a directory are listed in the order of the entries of the disk.  Saving puts new
entries behind the old ones and leaves the places of the old ones as they are, so what was listed
before is listed in front of what is new (`Edits.filesBelow`), and what is new is where a file was
saved.
-/
namespace Conformance

namespace Disk

def filePlaces (entries : List (Place × Entry)) : List Place :=
  entries.filterMap fun x => match x.2 with
    | .file _ => some x.1
    | .dir => none

theorem filePlaces_cons_file (place : Place) (bytes : ByteArray) (es : List (Place × Entry)) :
    filePlaces ((place, .file bytes) :: es) = place :: filePlaces es := rfl

theorem filePlaces_cons (place : Place) (e : Entry) (es : List (Place × Entry)) :
    filePlaces ((place, e) :: es) = filePlaces [(place, e)] ++ filePlaces es := by
  cases e <;> rfl

theorem mem_filePlaces {place : Place} {es : List (Place × Entry)} :
    place ∈ filePlaces es ↔ ∃ bytes, (place, .file bytes) ∈ es := by
  unfold filePlaces
  rw [List.mem_filterMap]
  constructor
  · rintro ⟨⟨other, e⟩, hmem, hplace⟩
    cases e with
    | dir => cases hplace
    | file bytes =>
      cases hplace
      exact ⟨bytes, hmem⟩
  · rintro ⟨bytes, hmem⟩
    exact ⟨_, hmem, rfl⟩

theorem filePlaces_insert_file {place : Place} (bytes : ByteArray) :
    ∀ {es : List (Place × Entry)}, lookup place es ≠ some .dir →
      filePlaces (insert place (.file bytes) es) =
        filePlaces es ++ if lookup place es = none then [place] else []
  | [], _ => rfl
  | (other, e) :: es, h => by
    rw [lookup] at h ⊢
    rw [insert]
    split
    · rename_i ho
      subst ho
      rw [if_pos rfl] at h
      cases e with
      | dir => exact absurd rfl h
      | file old =>
        rw [filePlaces_cons_file, filePlaces_cons_file]
        simp
    · rename_i ho
      rw [if_neg ho] at h
      rw [filePlaces_cons, filePlaces_insert_file bytes h, filePlaces_cons other e es,
        List.append_assoc]

theorem filePlaces_insert_dir {place : Place} : ∀ {es : List (Place × Entry)},
    lookup place es = none → filePlaces (insert place .dir es) = filePlaces es
  | [], _ => rfl
  | (other, e) :: es, h => by
    rw [lookup] at h
    split at h
    · cases h
    · rename_i ho
      rw [insert, if_neg ho, filePlaces_cons, filePlaces_insert_dir h, ← filePlaces_cons]

theorem lookup_of_find? {d : Disk} {place : Place} (hne : place ≠ []) :
    lookup place d.entries = d.find? place := by
  rw [find?, if_neg hne]

variable {dirs : Path → Prop} {files : List Path}

/-- What is new on a disk and listed is a file at one of the paths that were saved. -/
def IsNew (files : List Path) (d : Disk) (place : Place) : Prop :=
  (∃ bytes, d.find? place = some (.file bytes)) ∧ ∃ p ∈ files, d.place? p = some place

theorem IsNew.grows {d d' : Disk} (h : Grows d d') {place : Place} (hnew : IsNew files d place) :
    IsNew files d' place := by
  obtain ⟨⟨bytes, hfile⟩, p, hp, hplace⟩ := hnew
  exact ⟨h.files place bytes hfile, p, hp, h.place? hplace⟩

theorem Edit.filePlaces {d d' : Disk} (h : Edit dirs files d d') :
    ∃ new, filePlaces d'.entries = filePlaces d.entries ++ new ∧
      ∀ place ∈ new, IsNew files d' place := by
  have hgrows := h.grows
  cases h with
  | @dir p t _ _ _ hfind =>
    rw [← lookup_of_find? t.place_ne_nil] at hfind
    exact ⟨[], by simp [put, filePlaces_insert_dir hfind], fun place hplace => by cases hplace⟩
  | @file p t bytes hp htarget hslash hshort hdir =>
    rw [← lookup_of_find? t.place_ne_nil] at hdir
    refine ⟨_, filePlaces_insert_file bytes hdir, fun place hplace => ?_⟩
    split at hplace
    · rw [List.mem_singleton.1 hplace]
      refine ⟨⟨bytes, find?_put_self d t.place_ne_nil _⟩, p, hp, ?_⟩
      exact place?_eq_some.2 ⟨_, resolve_put_target htarget (.inr hslash) hshort hgrows⟩
    · cases hplace

/-- **Edits list what is new behind what was there.** -/
theorem Edits.filePlaces {d d' : Disk} (h : Edits dirs files d d') :
    ∃ new, filePlaces d'.entries = filePlaces d.entries ++ new ∧
      ∀ place ∈ new, IsNew files d' place := by
  induction h with
  | refl => exact ⟨[], by simp, fun place hplace => by cases hplace⟩
  | tail _ hedit ih =>
    obtain ⟨new, hnew, hold⟩ := ih
    obtain ⟨more, hmore, hlast⟩ := hedit.filePlaces
    refine ⟨new ++ more, by rw [hmore, hnew, List.append_assoc], fun place hplace => ?_⟩
    rcases List.mem_append.1 hplace with hplace | hplace
    · exact (hold place hplace).grows hedit.grows
    · exact hlast place hplace

/-! ## Below a directory -/

theorem below?_eq_some : ∀ {place other rest : Place}, below? place other = some rest ↔
    other = place ++ rest
  | [], other, rest => by simp [below?]
  | n :: place, [], rest => by simp [below?]
  | n :: place, m :: other, rest => by
    rw [below?]
    split
    · rename_i hn
      rw [below?_eq_some, hn]
      simp
    · rename_i hn
      simp [Ne.symm hn]

/-- The path from a directory to a place below its own. -/
def pathBelow (dir : Path) (place other : Place) : Option Path :=
  match below? place other with
  | some (n :: names) => some (dir.join ⟨Text.joinWith '/' (n :: names)⟩)
  | _ => none

theorem pathBelow_eq_some {dir path : Path} {place other : Place} :
    pathBelow dir place other = some path ↔ ∃ names, names ≠ [] ∧ other = place ++ names ∧
      path = dir.join ⟨Text.joinWith '/' names⟩ := by
  unfold pathBelow
  cases hbelow : below? place other with
  | none =>
    constructor
    · intro h
      cases h
    · rintro ⟨names, -, hother, -⟩
      rw [below?_eq_some.2 hother] at hbelow
      cases hbelow
  | some rest =>
    obtain rfl := below?_eq_some.1 hbelow
    cases rest with
    | nil =>
      constructor
      · intro h
        cases h
      · rintro ⟨names, hne, hother, -⟩
        exact absurd (List.append_cancel_left hother).symm hne
    | cons n rest =>
      constructor
      · intro h
        cases h
        exact ⟨n :: rest, List.cons_ne_nil n rest, rfl, rfl⟩
      · rintro ⟨names, -, hother, rfl⟩
        obtain rfl := List.append_cancel_left hother
        rfl

theorem filesBelow_eq {d : Disk} {dir : Path} {place : Place}
    (h : d.resolve dir = .ok (place, .dir)) :
    d.filesBelow dir = (filePlaces d.entries).filterMap (pathBelow dir place) := by
  unfold filesBelow filePlaces below
  rw [h]
  dsimp only
  rw [List.filterMap_filterMap, List.filterMap_filterMap]
  refine congrArg (List.filterMap · d.entries) (funext fun x => ?_)
  obtain ⟨other, e⟩ := x
  unfold pathBelow
  cases e with
  | dir =>
    dsimp only
    cases hbelow : below? place other with
    | none => rfl
    | some rest => cases rest <;> rfl
  | file bytes =>
    dsimp only [Option.bind_some]
    cases hbelow : below? place other with
    | none => rfl
    | some rest => cases rest <;> rfl

theorem mem_filesBelow_iff {d : Disk} {dir path : Path} : path ∈ d.filesBelow dir ↔
    ∃ place names bytes, d.resolve dir = .ok (place, .dir) ∧ names ≠ [] ∧
      (place ++ names, .file bytes) ∈ d.entries ∧ path = dir.join ⟨Text.joinWith '/' names⟩ := by
  constructor
  · intro hpath
    cases hres : d.resolve dir with
    | error e => simp [filesBelow, hres] at hpath
    | ok spot =>
      obtain ⟨place, e⟩ := spot
      cases e with
      | file bytes => simp [filesBelow, hres] at hpath
      | dir =>
        rw [filesBelow_eq hres, List.mem_filterMap] at hpath
        obtain ⟨other, hother, hpath⟩ := hpath
        obtain ⟨names, hne, rfl, rfl⟩ := pathBelow_eq_some.1 hpath
        obtain ⟨bytes, hentry⟩ := mem_filePlaces.1 hother
        exact ⟨place, names, bytes, rfl, hne, hentry, rfl⟩
  · rintro ⟨place, names, bytes, hres, hne, hentry, rfl⟩
    rw [filesBelow_eq hres, List.mem_filterMap]
    exact ⟨_, mem_filePlaces.2 ⟨bytes, hentry⟩, pathBelow_eq_some.2 ⟨names, hne, rfl, rfl⟩⟩

/-- **A new file below a canonical directory is listed under a path that leads to it.** -/
theorem IsNew.meet {d : Disk} {dir q : Path} {names place : Place} (hdir : dir.IsCanonical names)
    (hfiles : ∀ w ∈ files, w.isAbsolute = true) (hnew : IsNew files d place)
    (hq : pathBelow dir names place = some q) : ∃ w ∈ files, d.meet q w = true := by
  obtain ⟨⟨bytes, hfile⟩, w, hw, hplace⟩ := hnew
  obtain ⟨e, hres⟩ := place?_eq_some.1 hplace
  have hstands := (place_of_isAbsolute (hfiles w hw) hres).2
  cases hfile.symm.trans hstands
  obtain ⟨hcanonical, hspelled⟩ := resolve_ofPieces (hfiles w hw) hres
  obtain ⟨rest, hne, hplace', rfl⟩ := pathBelow_eq_some.1 hq
  have hrest : ∀ m ∈ rest, Path.IsName m := by
    intro m hm
    refine hcanonical.2 m ?_
    rw [hplace']
    exact List.mem_append_right _ hm
  have hfirst : ∃ first more, rest = first :: more ∧ Path.isIdle first = false := by
    obtain ⟨first, more, rfl⟩ := List.exists_cons_of_ne_nil hne
    exact ⟨first, more, rfl, (hrest first List.mem_cons_self).busy⟩
  have hjoin : dir.join ⟨Text.joinWith '/' rest⟩ = .ofPieces .root place := by
    rw [hplace']
    exact (Path.IsCanonical.isNormal hdir).join hfirst fun m hm => (hrest m hm).whole
  refine ⟨w, hw, meet_of_place? ?_ hplace⟩
  rw [hjoin]
  exact place?_eq_some.2 ⟨_, hspelled⟩

theorem Edits.filesBelow {d d' : Disk} (h : Edits dirs files d d') {dir : Path} {names : Place}
    (hdir : dir.IsCanonical names) (hfiles : ∀ w ∈ files, w.isAbsolute = true)
    (hplace : d.resolve dir = .ok (names, .dir)) :
    ∃ new, d'.filesBelow dir = d.filesBelow dir ++ new ∧
      ∀ q ∈ new, ∃ w ∈ files, d'.meet q w = true := by
  have hplace' := h.wrote.grows.resolve_dir hplace
  obtain ⟨new, hnew, hsaved⟩ := h.filePlaces
  refine ⟨new.filterMap (pathBelow dir names), ?_, fun q hq => ?_⟩
  · rw [filesBelow_eq hplace, filesBelow_eq hplace', hnew, List.filterMap_append]
  · obtain ⟨place, hmem, hq⟩ := List.mem_filterMap.1 hq
    exact (hsaved place hmem).meet hdir hfiles hq

end Disk

end Conformance
