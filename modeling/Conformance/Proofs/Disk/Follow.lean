import Conformance.Disk.Access
import Conformance.Proofs.Path.Canonical
/-!
# What following a path says about a disk

A step from a directory stays, goes up, or goes to an entry of the disk; from a file there is no
step.  So what a path leads to stands on the disk, and a path without dots leads to the place that
its names spell.
-/
namespace Conformance

namespace Disk

/-- What is said to be at a place is there. -/
def Stands (d : Disk) (spot : Place × Entry) : Prop :=
  ∀ bytes, spot.2 = .file bytes → d.find? spot.1 = some (.file bytes)

theorem child_eq_ok {d : Disk} {place : Place} {name : List Char} {next : Place × Entry} :
    d.child place name = .ok next ↔
      isLongName name = false ∧ next.1 = place ++ [name] ∧ d.find? next.1 = some next.2 := by
  unfold child
  constructor
  · intro h
    split at h
    · cases h
    · rename_i hshort
      split at h
      · cases h
      · rename_i hfind
        cases h
        exact ⟨by simpa using hshort, rfl, hfind⟩
  · rintro ⟨hshort, hplace, hfind⟩
    rw [if_neg (by simpa using hshort), ← hplace, hfind]

theorem child_of_none {d : Disk} {place : Place} {name : List Char}
    (hshort : isLongName name = false) (h : d.find? (place ++ [name]) = none) :
    d.child place name = .error .notFound := by
  simp [child, hshort, h]

/-- **What a step can do**: stay, go up, or go to an entry of the disk. -/
theorem step_eq_ok {d : Disk} {spot next : Place × Entry} {piece : List Char} :
    d.step spot piece = .ok next ↔ spot.2 = .dir ∧
      (Path.isIdle piece = true ∧ next = spot ∨
        Path.isIdle piece = false ∧ piece = Path.dotDot ∧ next = (spot.1.dropLast, .dir) ∨
        Path.isIdle piece = false ∧ piece ≠ Path.dotDot ∧ isLongName piece = false ∧
          next.1 = spot.1 ++ [piece] ∧ d.find? next.1 = some next.2) := by
  obtain ⟨place, e⟩ := spot
  cases e with
  | file bytes => simp [step]
  | dir =>
    by_cases hidle : Path.isIdle piece = true
    · simp [step, hidle, @eq_comm _ next]
    · by_cases hup : piece = Path.dotDot
      · have hidle' : Path.isIdle Path.dotDot = false := rfl
        simp [step, hup, hidle', @eq_comm _ next]
      · simp [step, hidle, hup, child_eq_ok]

theorem follow_cons_ok {d : Disk} {spot last : Place × Entry} {piece : List Char}
    {pieces : List (List Char)} (h : d.follow spot (piece :: pieces) = .ok last) :
    ∃ next, d.step spot piece = .ok next ∧ d.follow next pieces = .ok last := by
  rw [follow] at h
  split at h
  · cases h
  · rename_i next hstep
    exact ⟨next, hstep, h⟩

theorem Stands.step {d : Disk} {spot next : Place × Entry} {piece : List Char}
    (hs : d.Stands spot) (h : d.step spot piece = .ok next) : d.Stands next := by
  obtain ⟨-, ⟨-, rfl⟩ | ⟨-, -, rfl⟩ | ⟨-, -, -, -, hfind⟩⟩ := step_eq_ok.1 h
  · exact hs
  · intro bytes hb
    cases hb
  · intro bytes hb
    rw [hfind, hb]

theorem Stands.follow {d : Disk} : ∀ {pieces : List (List Char)} {spot last : Place × Entry},
    d.Stands spot → d.follow spot pieces = .ok last → d.Stands last
  | [], spot, last, hs, h => by
    cases h
    exact hs
  | piece :: pieces, spot, last, hs, h => by
    obtain ⟨next, hstep, hrest⟩ := follow_cons_ok h
    exact (hs.step hstep).follow hrest

theorem stands_start (d : Disk) (p : Path) : d.Stands (d.start p) := by
  intro bytes hb
  unfold start at hb
  split at hb <;> cases hb

theorem follow_of_resolve {d : Disk} {p : Path} {spot : Place × Entry}
    (h : d.resolve p = .ok spot) : checkPath p = .ok () ∧
      d.follow (d.start p) p.pieces = .ok spot := by
  unfold resolve at h
  split at h
  · cases h
  · rename_i hcheck
    exact ⟨hcheck, h⟩

theorem find?_of_resolve {d : Disk} {p : Path} {place : Place} {bytes : ByteArray}
    (h : d.resolve p = .ok (place, .file bytes)) : d.find? place = some (.file bytes) :=
  (d.stands_start p).follow (follow_of_resolve h).2 bytes rfl

theorem isDir_iff {d : Disk} {p : Path} :
    d.isDir p = true ↔ ∃ place, d.resolve p = .ok (place, .dir) := by
  unfold isDir
  constructor
  · intro h
    split at h
    · rename_i place hr
      exact ⟨place, hr⟩
    · cases h
  · rintro ⟨place, hr⟩
    rw [hr]

theorem holds_iff {d : Disk} {p : Path} : d.holds p = true ↔ ∃ spot, d.resolve p = .ok spot := by
  unfold holds
  constructor
  · intro h
    split at h
    · rename_i spot hr
      exact ⟨spot, hr⟩
    · cases h
  · rintro ⟨spot, hr⟩
    rw [hr]

theorem holds_eq_false {d : Disk} {p : Path} {e : DiskError} (h : d.resolve p = .error e) :
    d.holds p = false := by
  unfold holds
  rw [h]

/-! ## Canonical paths -/

theorem follow_names {d : Disk} : ∀ {names : List (List Char)} {spot last : Place × Entry},
    (∀ n ∈ names, Path.IsName n) → d.follow spot names = .ok last → last.1 = spot.1 ++ names
  | [], spot, last, _, h => by
    cases h
    simp
  | n :: names, spot, last, hn, h => by
    obtain ⟨next, hstep, hrest⟩ := follow_cons_ok h
    have hname := hn n List.mem_cons_self
    have hlast := follow_names (fun m hm => hn m (List.mem_cons_of_mem n hm)) hrest
    obtain ⟨-, ⟨hidle, -⟩ | ⟨-, hup, -⟩ | ⟨-, -, -, hnext, -⟩⟩ := step_eq_ok.1 hstep
    · rw [hname.busy] at hidle
      cases hidle
    · exact absurd hup hname.notUp
    · rw [hlast, hnext, List.append_assoc]
      rfl

theorem start_of_isAbsolute {d : Disk} {p : Path} (h : p.isAbsolute = true) :
    d.start p = ([], .dir) := by rw [start, if_pos h]

/-- **A canonical path leads to a file only at the place that it spells.** -/
theorem place_of_isCanonical {d : Disk} {p : Path} {names : List (List Char)}
    (hp : p.IsCanonical names) {place : Place} {bytes : ByteArray}
    (h : d.resolve p = .ok (place, .file bytes)) : names ≠ [] ∧ place = names := by
  have hfollow := (follow_of_resolve h).2
  rw [start_of_isAbsolute hp.isAbsolute] at hfollow
  have hne : names ≠ [] := by
    rintro rfl
    rw [hp.pieces_nil] at hfollow
    cases hfollow
  rw [hp.pieces hne] at hfollow
  exact ⟨hne, by simpa using follow_names hp.2 hfollow⟩

/-! ## Absolute paths -/

/-- What was come to from the root: it stands on the disk, in directories all the way up, and no
name on the way is a double dot. -/
structure Rooted (d : Disk) (spot : Place × Entry) : Prop where
  stands : d.find? spot.1 = some spot.2
  above : ∀ front back, spot.1 = front ++ back → back ≠ [] → d.find? front = some .dir
  notUp : Path.dotDot ∉ spot.1

theorem rooted_root (d : Disk) : d.Rooted ([], .dir) := by
  refine ⟨d.find?_nil, fun front back hsplit hne => ?_, List.not_mem_nil⟩
  exact absurd (List.append_eq_nil_iff.1 hsplit.symm).2 hne

theorem Rooted.child {d : Disk} {place : Place} {name : List Char} {e : Entry}
    (h : d.Rooted (place, .dir)) (hname : name ≠ Path.dotDot)
    (he : d.find? (place ++ [name]) = some e) : d.Rooted (place ++ [name], e) := by
  refine ⟨he, fun front back hsplit hne => ?_, fun hmem => ?_⟩
  · rcases List.eq_nil_or_concat back with rfl | ⟨back, last, rfl⟩
    · exact absurd rfl hne
    · rw [List.concat_eq_append, ← List.append_assoc] at hsplit
      obtain ⟨hplace, -⟩ := List.append_inj' hsplit rfl
      by_cases hback : back = []
      · rw [hback, List.append_nil] at hplace
        exact hplace ▸ h.stands
      · exact h.above front back hplace hback
  · rcases List.mem_append.1 hmem with hmem | hmem
    · exact h.notUp hmem
    · exact hname (List.mem_singleton.1 hmem).symm

theorem Rooted.up {d : Disk} {place : Place} (h : d.Rooted (place, .dir)) :
    d.Rooted (place.dropLast, .dir) := by
  rcases List.eq_nil_or_concat place with rfl | ⟨front, last, rfl⟩
  · exact h
  · rw [List.concat_eq_append] at h ⊢
    rw [List.dropLast_concat]
    refine ⟨h.above front [last] rfl (by simp), fun front' back hsplit _ => ?_, fun hmem => ?_⟩
    · refine h.above front' (back ++ [last]) ?_ (by simp)
      rw [← List.append_assoc, ← hsplit]
    · exact h.notUp (List.mem_append_left _ hmem)

/-- **A step from the root goes where the text of the path goes**: up, by taking a name off, and
down, by adding one. -/
theorem Rooted.step {d : Disk} {spot next : Place × Entry} {piece : List Char}
    (h : d.Rooted spot) (hs : d.step spot piece = .ok next) : d.Rooted next ∧
      next.1.reverse = (if Path.isIdle piece then [] else [Path.Component.ofPiece piece]).foldl
        (Path.stackStep true) spot.1.reverse := by
  obtain ⟨place, e⟩ := spot
  obtain ⟨hdir, ⟨hidle, rfl⟩ | ⟨hidle, hup, rfl⟩ | ⟨hidle, hname, -, hplace, hfind⟩⟩ :=
    step_eq_ok.1 hs
  · exact ⟨h, by rw [if_pos hidle, List.foldl_nil]⟩
  · cases hdir
    refine ⟨h.up, ?_⟩
    rw [if_neg (by simp [hidle]), hup]
    rcases List.eq_nil_or_concat place with rfl | ⟨front, last, rfl⟩
    · rfl
    · have hlast : last ≠ Path.dotDot := by
        rintro rfl
        exact h.notUp (by simp)
      have hstep : Path.Component.ofPiece Path.dotDot = .up := rfl
      simp [hstep, Path.stackStep, hlast]
  · cases hdir
    obtain ⟨place', e⟩ := next
    dsimp only at hplace hfind ⊢
    subst hplace
    refine ⟨h.child hname hfind, ?_⟩
    have hstep : Path.Component.ofPiece piece = .name piece :=
      if_neg (by simpa [Path.dotDot] using hname)
    rw [if_neg (by simp [hidle]), hstep, List.reverse_append]
    rfl

theorem Rooted.follow {d : Disk} : ∀ {pieces : List (List Char)} {spot last : Place × Entry},
    d.Rooted spot → d.follow spot pieces = .ok last → d.Rooted last ∧
      last.1.reverse = (Path.stepsOf pieces).foldl (Path.stackStep true) spot.1.reverse
  | [], _, _, h, hf => by
    cases hf
    exact ⟨h, rfl⟩
  | piece :: pieces, spot, last, h, hf => by
    obtain ⟨next, hstep, hrest⟩ := follow_cons_ok hf
    obtain ⟨hnext, hplace⟩ := h.step hstep
    obtain ⟨hlast, hplace'⟩ := hnext.follow hrest
    refine ⟨hlast, ?_⟩
    rw [hplace', hplace, Path.stepsOf_cons, List.foldl_append]

/-- **An absolute path leads, if anywhere, to the place that its text spells** once dots are
resolved, and what it is said to lead to is there. -/
theorem place_of_isAbsolute {d : Disk} {p : Path} {spot : Place × Entry}
    (hp : p.isAbsolute = true) (h : d.resolve p = .ok spot) :
    spot.1 = Path.resolvedNames true p.components ∧ d.find? spot.1 = some spot.2 := by
  have hfollow := (follow_of_resolve h).2
  rw [start_of_isAbsolute hp] at hfollow
  obtain ⟨hspot, hplace⟩ := d.rooted_root.follow hfollow
  refine ⟨?_, hspot.stands⟩
  rw [Path.resolvedNames, Path.components, Path.lead_eq_root hp, Path.Lead.steps,
    List.singleton_append, List.foldl_cons, Path.stackStep, ← List.reverse_nil, ← hplace,
    List.reverse_reverse]

/-! ## Paths that do not go up -/

theorem follow_down {d : Disk} : ∀ {pieces : List (List Char)} {spot last : Place × Entry},
    Path.dotDot ∉ pieces → d.follow spot pieces = .ok last →
      last = spot ∨ spot.2 = .dir ∧ ∃ names, names ≠ [] ∧ last.1 = spot.1 ++ names
  | [], _, _, _, h => by
    cases h
    exact .inl rfl
  | piece :: pieces, spot, last, hup, h => by
    obtain ⟨next, hstep, hrest⟩ := follow_cons_ok h
    have hdown := follow_down (fun hmem => hup (List.mem_cons_of_mem piece hmem)) hrest
    obtain ⟨hdir, ⟨-, rfl⟩ | ⟨-, rfl, -⟩ | ⟨-, -, -, hnext, -⟩⟩ := step_eq_ok.1 hstep
    · exact hdown
    · exact absurd List.mem_cons_self hup
    · refine .inr ⟨hdir, ?_⟩
      rcases hdown with rfl | ⟨-, names, -, hlast⟩
      · exact ⟨[piece], by simp, hnext⟩
      · exact ⟨piece :: names, by simp, by rw [hlast, hnext, List.append_assoc]; rfl⟩

/-- Every entry of a disk stands in a directory. -/
def IsTree (d : Disk) : Prop :=
  ∀ place name e, d.find? (place ++ [name]) = some e → d.find? place = some .dir

theorem IsTree.above {d : Disk} (h : d.IsTree) : ∀ {names : List (List Char)} {place : Place}
    {e : Entry}, names ≠ [] → d.find? (place ++ names) = some e → d.find? place = some .dir
  | [], _, _, hne, _ => absurd rfl hne
  | [name], place, e, _, hfind => h place name e hfind
  | name :: next :: names, place, e, _, hfind => by
    rw [List.append_cons] at hfind
    exact h place name .dir (h.above (by simp) hfind)

/-- **A way that does not go up needs nothing but what it ends at**: on a tree, all that it passes
is above that. -/
theorem IsTree.follow {d d' : Disk} (h : d.IsTree) : ∀ {pieces : List (List Char)}
    {spot last : Place × Entry}, Path.dotDot ∉ pieces → d'.follow spot pieces = .ok last →
      d.find? last.1 = some last.2 → d.follow spot pieces = .ok last
  | [], _, _, _, hf, _ => hf
  | piece :: pieces, spot, last, hup, hf, hlast => by
    obtain ⟨next, hstep, hrest⟩ := follow_cons_ok hf
    have hup' : Path.dotDot ∉ pieces := fun hmem => hup (List.mem_cons_of_mem piece hmem)
    have hnext : d.find? next.1 = some next.2 := by
      rcases follow_down hup' hrest with rfl | ⟨hdir, names, hne, hplace⟩
      · exact hlast
      · rw [hplace] at hlast
        rw [hdir]
        exact h.above hne hlast
    have hstep' : d.step spot piece = .ok next := by
      obtain ⟨hdir, hnext' | hnext' | ⟨hidle, hdots, hshort, hplace, -⟩⟩ := step_eq_ok.1 hstep
      · exact step_eq_ok.2 ⟨hdir, .inl hnext'⟩
      · exact step_eq_ok.2 ⟨hdir, .inr (.inl hnext')⟩
      · exact step_eq_ok.2 ⟨hdir, .inr (.inr ⟨hidle, hdots, hshort, hplace, hnext⟩)⟩
    rw [Disk.follow, hstep']
    exact h.follow hup' hrest hlast

/-! ## Last names -/

theorem follow_append (d : Disk) : ∀ (front back : List (List Char)) (spot : Place × Entry),
    d.follow spot (front ++ back) = (d.follow spot front).bind (d.follow · back)
  | [], _, _ => rfl
  | piece :: front, back, spot => by
    rw [List.cons_append, follow, follow]
    split
    · rfl
    · exact follow_append d front back _

theorem start_dir (d : Disk) (p : Path) : (d.start p).2 = .dir := by
  unfold start
  split <;> rfl

theorem follow_piecesWithDot (d : Disk) (p : Path) :
    d.follow (d.start p) (piecesWithDot p) = d.follow (d.start p) p.pieces := by
  unfold piecesWithDot
  split
  · have hstep : d.step (d.start p) ['.'] = .ok (d.start p) := by
      unfold step
      rw [start_dir]
      rfl
    rw [follow, hstep]
  · rfl

theorem eq_append_of_dropWhile_reverse {l : List (List Char)} {name : List Char}
    {before : List (List Char)} (h : l.reverse.dropWhile List.isEmpty = name :: before) :
    ∃ rest, l = before.reverse ++ name :: rest ∧ name ≠ [] ∧ (∀ piece ∈ rest, piece = []) ∧
      (l.getLast? ≠ some [] → rest = []) := by
  refine ⟨(l.reverse.takeWhile List.isEmpty).reverse, ?_, ?_, fun piece hpiece => ?_, ?_⟩
  · have hsplit := List.takeWhile_append_dropWhile (p := List.isEmpty) (l := l.reverse)
    rw [h] at hsplit
    have hl := congrArg List.reverse hsplit
    rw [List.reverse_reverse, List.reverse_append, List.reverse_cons, List.append_assoc] at hl
    exact hl.symm
  · have hhead := List.head_dropWhile_not List.isEmpty (l := l.reverse) (by simp [h])
    simp only [h, List.head_cons] at hhead
    rintro rfl
    cases hhead
  · exact List.isEmpty_iff.1 (List.mem_takeWhile_imp (List.mem_reverse.1 hpiece))
  · intro hlast
    rw [← List.head?_reverse] at hlast
    cases hrev : l.reverse with
    | nil => rfl
    | cons last front =>
      rw [hrev] at hlast
      have hbusy : ¬ last.isEmpty = true := fun hempty =>
        hlast (by rw [List.isEmpty_iff.1 hempty]; rfl)
      rw [List.takeWhile_cons_of_neg hbusy]
      rfl

/-- **What a target says**: the path leads to its directory and then, by its name, to what it
leads to. -/
theorem target_some {d : Disk} {p : Path} {t : Target} (h : d.target p = .ok (some t)) :
    ∃ before rest, checkPath p = .ok () ∧ piecesWithDot p = before ++ t.name :: rest ∧
      d.follow (d.start p) before = .ok (t.dir, .dir) ∧ Path.isIdle t.name = false ∧
      t.name ≠ Path.dotDot ∧ (∀ piece ∈ rest, piece = []) ∧ (t.slashed = false → rest = []) := by
  unfold target at h
  split at h
  · cases h
  · rename_i hcheck
    split at h
    · cases h
    · rename_i name before hname
      obtain ⟨rest, hall, hne, hempty, hrest⟩ := eq_append_of_dropWhile_reverse hname
      split at h
      · cases h
      · cases h
      · rename_i dir hdir
        split at h
        · cases h
        · rename_i hdots
          cases h
          obtain ⟨hdot, hup⟩ := not_or.1 hdots
          refine ⟨before.reverse, rest, hcheck, hall, hdir, ?_, hup, hempty, fun hs => ?_⟩
          · simp [Path.isIdle, hne, hdot]
          · exact hrest (by simpa using hs)

theorem resolve_of_target {d : Disk} {p : Path} {t : Target} (h : d.target p = .ok (some t)) :
    ∃ rest, d.resolve p = (d.child t.dir t.name).bind (d.follow · rest) ∧
      (t.slashed = false → rest = []) := by
  obtain ⟨before, rest, hcheck, hall, hbefore, hidle, hup, -, hrest⟩ := target_some h
  refine ⟨rest, ?_, hrest⟩
  have hstep : d.step (t.dir, .dir) t.name = d.child t.dir t.name := by
    simp [step, hidle, hup]
  unfold resolve
  rw [hcheck]
  dsimp only
  rw [← follow_piecesWithDot, hall, follow_append, hbefore]
  simp only [Except.bind, follow, hstep]
  cases d.child t.dir t.name <;> rfl

theorem resolve_of_target_error {d : Disk} {p : Path} {e : DiskError}
    (h : d.target p = .error e) : ∃ e', d.resolve p = .error e' := by
  unfold target at h
  unfold resolve
  split at h
  · exact ⟨_, rfl⟩
  · rw [← follow_piecesWithDot]
    split at h
    · cases h
    · rename_i name before hname
      obtain ⟨rest, hall, -⟩ := eq_append_of_dropWhile_reverse hname
      rw [hall, follow_append]
      split at h
      · rename_i hbefore
        rw [hbefore]
        exact ⟨_, rfl⟩
      · rename_i hbefore
        rw [hbefore]
        exact ⟨_, rfl⟩
      · split at h <;> cases h

/-! ## Entries -/

theorem mem_of_lookup : ∀ {es : List (Place × Entry)} {place : Place} {e : Entry},
    lookup place es = some e → (place, e) ∈ es
  | [], _, _, h => by cases h
  | (q, f) :: es, place, e, h => by
    rw [lookup] at h
    split at h
    · rename_i hq
      cases h
      rw [hq]
      exact List.mem_cons_self
    · exact List.mem_cons_of_mem _ (mem_of_lookup h)

theorem mem_entries_of_find? {d : Disk} {place : Place} {bytes : ByteArray}
    (h : d.find? place = some (.file bytes)) : (place, .file bytes) ∈ d.entries := by
  unfold find? at h
  split at h
  · cases h
  · exact mem_of_lookup h

theorem readText_eq_ok {d : Disk} {p : Path} {s : String} : d.readText p = .ok s ↔
    ∃ place bytes, d.resolve p = .ok (place, .file bytes) ∧ String.fromUTF8? bytes = some s := by
  unfold readText read
  constructor
  · intro h
    split at h
    · cases h
    · rename_i bytes hread
      split at hread
      · cases hread
      · cases hread
      · rename_i place _ hres
        cases hread
        split at h
        · cases h
        · rename_i text htext
          cases h
          exact ⟨place, bytes, hres, htext⟩
  · rintro ⟨place, bytes, hres, htext⟩
    simp only [hres, htext]

end Disk

end Conformance
