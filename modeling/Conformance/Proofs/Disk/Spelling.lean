import Conformance.Proofs.Disk.Follow
import Conformance.Proofs.Path.Normal
/-!
# Spellings of one way

A place can be led to by more than one text.  Pieces that are idle can be left out
(`resolve_of_trimmed`), and what an absolute path leads to can be led to by the names of its place
(`resolve_ofPieces`).  Either text is no longer than the path was and has no character that the path
did not have, so the disk can follow it.
-/
namespace Conformance

namespace Disk

theorem checkPath_eq_ok {p : Path} : checkPath p = .ok () ↔
    '\x00' ∉ p.chars ∧ p.chars ≠ [] ∧ Text.byteLength p.chars < pathLimit := by
  unfold checkPath
  split_ifs <;> simp_all

theorem checkPath_of_sublist {p q : Path} (h : checkPath p = .ok ())
    (hsub : List.Sublist q.chars p.chars) (hne : q.chars ≠ []) : checkPath q = .ok () := by
  obtain ⟨hzero, -, hlength⟩ := checkPath_eq_ok.1 h
  have hle := Text.byteLength_sublist hsub
  exact checkPath_eq_ok.2 ⟨fun hmem => hzero (hsub.subset hmem), hne, by omega⟩

theorem resolve_eq_ok {d : Disk} {p : Path} {spot : Place × Entry} : d.resolve p = .ok spot ↔
    checkPath p = .ok () ∧ d.follow (d.start p) p.pieces = .ok spot := by
  refine ⟨follow_of_resolve, fun ⟨hcheck, hfollow⟩ => ?_⟩
  rw [resolve, hcheck]
  exact hfollow

/-! ## Without idle pieces -/

theorem follow_of_trims {d : Disk} {ps qs : List (List Char)} (h : Path.Trims ps qs) :
    ∀ {spot last : Place × Entry}, d.follow spot ps = .ok last → d.follow spot qs = .ok last := by
  induction h with
  | nil => exact fun hf => hf
  | keep piece _ ih =>
    intro spot last hf
    obtain ⟨next, hstep, hrest⟩ := follow_cons_ok hf
    rw [follow, hstep]
    exact ih hrest
  | @drop piece _ _ hidle _ ih =>
    intro spot last hf
    obtain ⟨next, hstep, hrest⟩ := follow_cons_ok hf
    obtain ⟨-, ⟨-, rfl⟩ | ⟨hbusy, -⟩ | ⟨hbusy, -⟩⟩ := step_eq_ok.1 hstep
    · exact ih hrest
    · rw [hidle] at hbusy
      cases hbusy
    · rw [hidle] at hbusy
      cases hbusy

/-- **A path leads where it leads without its idle pieces.** -/
theorem resolve_of_trimmed {d : Disk} {p q : Path} (h : Path.Trimmed p q) {spot : Place × Entry}
    (hr : d.resolve p = .ok spot) : d.resolve q = .ok spot := by
  obtain ⟨hcheck, hfollow⟩ := follow_of_resolve hr
  have hstart : d.start q = d.start p := by
    unfold start Path.isAbsolute
    rw [h.lead]
  have hchars := h.chars (checkPath_eq_ok.1 hcheck).2.1
  refine resolve_eq_ok.2 ⟨checkPath_of_sublist hcheck h.sublist hchars, ?_⟩
  rw [hstart]
  exact follow_of_trims h.pieces hfollow

theorem exists_name_of_file {d : Disk} {p : Path} {place : Place} {bytes : ByteArray}
    (h : d.resolve p = .ok (place, .file bytes)) :
    ∃ front last, p.pieces = front ++ [last] ∧ Path.IsName last := by
  have hfollow := (follow_of_resolve h).2
  rcases List.eq_nil_or_concat p.pieces with hnil | ⟨front, last, hlast⟩
  · rw [hnil, follow, start] at hfollow
    split at hfollow <;> cases hfollow
  · rw [List.concat_eq_append] at hlast
    rw [hlast, follow_append] at hfollow
    refine ⟨front, last, hlast, ?_⟩
    cases hfront : d.follow (d.start p) front with
    | error e =>
      rw [hfront] at hfollow
      cases hfollow
    | ok mid =>
      rw [hfront] at hfollow
      obtain ⟨next, hstep, hend⟩ := follow_cons_ok hfollow
      cases hend
      obtain ⟨hdir, ⟨-, rfl⟩ | ⟨-, -, hup⟩ | ⟨hbusy, hname, -⟩⟩ := step_eq_ok.1 hstep
      · cases hdir
      · cases hup
      · exact ⟨hbusy, hname, Path.slash_not_mem_pieces (by rw [hlast]; simp)⟩

theorem dropIdleEnd_of_file {d : Disk} {p : Path} {place : Place} {bytes : ByteArray}
    (h : d.resolve p = .ok (place, .file bytes)) : Path.dropIdleEnd p.pieces = p.pieces := by
  obtain ⟨front, last, hlast, hname⟩ := exists_name_of_file h
  rw [hlast]
  exact Path.dropIdleEnd_concat front hname.busy

/-! ## By the names of the place -/

/-- Each name of a place is a piece of the way there, and one that a disk can hold. -/
structure Spelled (pieces : List (List Char)) (place : Place) : Prop where
  sublist : List.Sublist place pieces
  names : ∀ n ∈ place, Path.isIdle n = false ∧ n ≠ Path.dotDot ∧ isLongName n = false

theorem Spelled.step {d : Disk} {walked : List (List Char)} {spot next : Place × Entry}
    {piece : List Char} (h : Spelled walked spot.1) (hs : d.step spot piece = .ok next) :
    Spelled (walked ++ [piece]) next.1 := by
  have hlonger := List.sublist_append_left walked [piece]
  obtain ⟨-, ⟨-, rfl⟩ | ⟨-, -, rfl⟩ | ⟨hidle, hup, hshort, hplace, -⟩⟩ := step_eq_ok.1 hs
  · exact ⟨h.sublist.trans hlonger, h.names⟩
  · exact ⟨((List.dropLast_sublist _).trans h.sublist).trans hlonger,
      fun n hn => h.names n (List.dropLast_subset _ hn)⟩
  · rw [hplace]
    refine ⟨h.sublist.append (List.Sublist.refl [piece]), fun n hn => ?_⟩
    rcases List.mem_append.1 hn with hn | hn
    · exact h.names n hn
    · rw [List.mem_singleton.1 hn]
      exact ⟨hidle, hup, hshort⟩

theorem Spelled.follow {d : Disk} : ∀ {pieces walked : List (List Char)}
    {spot last : Place × Entry}, Spelled walked spot.1 → d.follow spot pieces = .ok last →
      Spelled (walked ++ pieces) last.1
  | [], walked, spot, last, h, hf => by
    cases hf
    rw [List.append_nil]
    exact h
  | piece :: pieces, walked, spot, last, h, hf => by
    obtain ⟨next, hstep, hrest⟩ := follow_cons_ok hf
    have hlast := (h.step hstep).follow hrest
    rw [List.append_assoc, List.singleton_append] at hlast
    exact hlast

theorem Rooted.follow_names {d : Disk} {e : Entry} : ∀ (back front : List (List Char))
    (f : Entry), d.Rooted (front ++ back, e) → d.find? front = some f →
    (∀ n ∈ back, Path.isIdle n = false ∧ n ≠ Path.dotDot ∧ isLongName n = false) →
      d.follow (front, f) back = .ok (front ++ back, e)
  | [], front, f, h, hf, _ => by
    have hsame := h.stands
    rw [List.append_nil] at hsame ⊢
    cases hf.symm.trans hsame
    rfl
  | n :: back, front, f, h, hf, hnames => by
    obtain ⟨hidle, hup, hshort⟩ := hnames n List.mem_cons_self
    cases hf.symm.trans (h.above front (n :: back) rfl (by simp))
    have happend : front ++ n :: back = (front ++ [n]) ++ back := by simp
    have hnext : ∃ g, d.find? (front ++ [n]) = some g := by
      cases back with
      | nil => exact ⟨e, h.stands⟩
      | cons m back => exact ⟨.dir, h.above (front ++ [n]) (m :: back) happend (by simp)⟩
    obtain ⟨g, hg⟩ := hnext
    have hstep : d.step (front, .dir) n = .ok (front ++ [n], g) :=
      step_eq_ok.2 ⟨rfl, .inr (.inr ⟨hidle, hup, hshort, rfl, hg⟩)⟩
    rw [happend] at h ⊢
    rw [Disk.follow, hstep]
    exact h.follow_names back (front ++ [n]) g hg fun m hm => hnames m (List.mem_cons_of_mem n hm)

/-- **What an absolute path leads to can be led to by the names of its place.** -/
theorem resolve_ofPieces {d : Disk} {p : Path} {place : Place} {bytes : ByteArray}
    (hp : p.isAbsolute = true) (h : d.resolve p = .ok (place, .file bytes)) :
    (Path.ofPieces .root place).IsCanonical place ∧
      d.resolve (.ofPieces .root place) = .ok (place, .file bytes) := by
  obtain ⟨hcheck, hfollow⟩ := follow_of_resolve h
  rw [start_of_isAbsolute hp] at hfollow
  have hroot : Spelled [] [] := ⟨List.Sublist.refl [], fun n hn => by cases hn⟩
  have hspelled : Spelled p.pieces place := hroot.follow hfollow
  have hrooted := (d.rooted_root.follow hfollow).1
  have hcanonical : (Path.ofPieces .root place).IsCanonical place := by
    refine ⟨rfl, fun n hn => ?_⟩
    obtain ⟨hbusy, hup, -⟩ := hspelled.names n hn
    exact ⟨hbusy, hup, Path.slash_not_mem_pieces (hspelled.sublist.subset hn)⟩
  have hne : place ≠ [] := by
    rintro rfl
    cases d.find?_nil.symm.trans hrooted.stands
  have hsub : List.Sublist (Path.ofPieces .root place).chars p.chars := by
    rw [← Path.ofPieces_lead_pieces p, Path.lead_eq_root hp]
    exact (Text.joinWith_sublist hspelled.sublist).cons_cons '/'
  refine ⟨hcanonical, resolve_eq_ok.2 ⟨checkPath_of_sublist hcheck hsub (by simp [Path.ofPieces]), ?_⟩⟩
  rw [start_of_isAbsolute hcanonical.isAbsolute, hcanonical.pieces hne]
  exact hrooted.follow_names place [] .dir d.find?_nil hspelled.names

end Disk

end Conformance
