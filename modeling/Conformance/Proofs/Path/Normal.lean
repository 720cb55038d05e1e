import Conformance.Proofs.Path.Canonical
import Conformance.Text.Bytes
/-!
# Paths seen from a directory

Normalizing a path leaves its lead and pieces that name something, double dots included.  The
directory of a normal path is normal, and a path that is seen from there, by what is left of it
behind the directory, is found again by joining the two: what comes back is the path, but for idle
pieces (`trimmed_join_strip?`).
-/
namespace Conformance

open Text (splitOn joinWith)

namespace Text

theorem joinWith_cons {sep : Char} (piece : List Char) {pieces : List (List Char)}
    (h : pieces ≠ []) : joinWith sep (piece :: pieces) = piece ++ sep :: joinWith sep pieces := by
  cases pieces with
  | nil => exact absurd rfl h
  | cons next pieces => rfl

theorem joinWith_append {sep : Char} : ∀ {front back : List (List Char)}, front ≠ [] → back ≠ [] →
    joinWith sep (front ++ back) = joinWith sep front ++ sep :: joinWith sep back
  | [], _, h, _ => absurd rfl h
  | [piece], back, _, hback => joinWith_cons piece hback
  | piece :: next :: front, back, _, hback => by
    rw [List.cons_append, joinWith_cons piece (by simp), joinWith_cons piece (by simp),
      joinWith_append (by simp) hback]
    simp

theorem joinWith_sublist {sep : Char} {ps qs : List (List Char)} (h : List.Sublist qs ps) :
    List.Sublist (joinWith sep qs) (joinWith sep ps) := by
  induction h with
  | slnil => exact List.Sublist.refl _
  | @cons qs ps piece h ih =>
    cases ps with
    | nil =>
      cases List.sublist_nil.1 h
      exact List.nil_sublist _
    | cons next ps =>
      rw [joinWith_cons piece (by simp)]
      exact (ih.cons sep).trans (List.sublist_append_right piece _)
  | @cons_cons qs ps piece h ih =>
    cases qs with
    | nil =>
      cases ps with
      | nil => exact List.Sublist.refl _
      | cons next ps => exact List.sublist_append_left piece _
    | cons next qs =>
      have hne : ps ≠ [] := by
        rintro rfl
        cases h
      rw [joinWith_cons piece (by simp), joinWith_cons piece hne]
      exact (List.Sublist.refl piece).append (ih.cons_cons sep)

theorem byteLength_sublist {xs ys : List Char} (h : List.Sublist xs ys) :
    byteLength xs ≤ byteLength ys := by
  induction h with
  | slnil => exact Nat.le_refl 0
  | cons c _ ih =>
    rw [byteLength_cons]
    omega
  | cons_cons c _ ih =>
    rw [byteLength_cons, byteLength_cons]
    omega

end Text

namespace Path

/-! ## Leaving idle pieces out -/

/-- Some pieces are others without some of the idle ones. -/
inductive Trims : List (List Char) → List (List Char) → Prop
  | nil : Trims [] []
  | keep (piece : List Char) {ps qs : List (List Char)} : Trims ps qs →
      Trims (piece :: ps) (piece :: qs)
  | drop {piece : List Char} {ps qs : List (List Char)} : isIdle piece = true → Trims ps qs →
      Trims (piece :: ps) qs

namespace Trims

theorem refl : ∀ ps : List (List Char), Trims ps ps
  | [] => .nil
  | piece :: ps => .keep piece (refl ps)

theorem append {ps qs ps' qs' : List (List Char)} (h : Trims ps qs) (h' : Trims ps' qs') :
    Trims (ps ++ ps') (qs ++ qs') := by
  induction h with
  | nil => exact h'
  | keep piece _ ih => exact .keep piece ih
  | drop hidle _ ih => exact .drop hidle ih

theorem trans {ps qs rs : List (List Char)} (h : Trims ps qs) (h' : Trims qs rs) :
    Trims ps rs := by
  induction h generalizing rs with
  | nil => exact h'
  | keep piece _ ih =>
    cases h' with
    | keep _ h' => exact .keep piece (ih h')
    | drop hidle h' => exact .drop hidle (ih h')
  | drop hidle _ ih => exact .drop hidle (ih h')

theorem reverse {ps qs : List (List Char)} (h : Trims ps qs) : Trims ps.reverse qs.reverse := by
  induction h with
  | nil => exact .nil
  | keep piece _ ih =>
    rw [List.reverse_cons, List.reverse_cons]
    exact ih.append (.refl [piece])
  | drop hidle _ ih =>
    rw [List.reverse_cons]
    simpa using ih.append (.drop hidle .nil)

theorem sublist {ps qs : List (List Char)} (h : Trims ps qs) : List.Sublist qs ps := by
  induction h with
  | nil => exact List.Sublist.refl []
  | keep piece _ ih => exact ih.cons_cons piece
  | drop _ _ ih => exact ih.cons _

end Trims

theorem trims_dropWhile : ∀ ps : List (List Char), Trims ps (ps.dropWhile isIdle)
  | [] => .nil
  | piece :: ps => by
    rw [List.dropWhile_cons]
    split
    · rename_i hidle
      exact .drop hidle (trims_dropWhile ps)
    · exact .refl _

theorem trims_dropIdleEnd (ps : List (List Char)) : Trims ps (dropIdleEnd ps) := by
  have h := (trims_dropWhile ps.reverse).reverse
  rw [List.reverse_reverse] at h
  exact h

theorem dropIdleEnd_concat (ps : List (List Char)) {last : List Char} (h : isIdle last = false) :
    dropIdleEnd (ps ++ [last]) = ps ++ [last] := by
  rw [dropIdleEnd, List.reverse_append, List.reverse_singleton, List.singleton_append,
    List.dropWhile_cons_of_neg (by simp [h])]
  simp

theorem dropIdleEnd_of_busy {ps : List (List Char)} (h : ∀ piece ∈ ps, isIdle piece = false) :
    dropIdleEnd ps = ps := by
  rcases List.eq_nil_or_concat ps with rfl | ⟨front, last, rfl⟩
  · rfl
  · rw [List.concat_eq_append] at h ⊢
    exact dropIdleEnd_concat front (h last (by simp))

structure Trimmed (p q : Path) : Prop where
  lead : q.lead = p.lead
  pieces : Trims p.pieces q.pieces
  chars : p.chars ≠ [] → q.chars ≠ []

theorem Trimmed.refl (p : Path) : Trimmed p p := ⟨rfl, .refl _, id⟩

theorem ofPieces_sublist (lead : Lead) {ps qs : List (List Char)} (h : List.Sublist qs ps) :
    List.Sublist (ofPieces lead qs).chars (ofPieces lead ps).chars := by
  cases lead with
  | bare => exact Text.joinWith_sublist h
  | root => exact (Text.joinWith_sublist h).cons_cons '/'
  | dot => exact Text.joinWith_sublist (h.cons_cons ['.'])

theorem joinWith_sublist_ofPieces (lead : Lead) (ps : List (List Char)) :
    List.Sublist (joinWith '/' ps) (ofPieces lead ps).chars := by
  cases lead with
  | bare => exact List.Sublist.refl _
  | root => exact List.sublist_cons_self _ _
  | dot => exact Text.joinWith_sublist (List.sublist_cons_self _ _)

theorem Trimmed.sublist {p q : Path} (h : Trimmed p q) : List.Sublist q.chars p.chars := by
  have hsub := ofPieces_sublist p.lead h.pieces.sublist
  rw [← h.lead, ofPieces_lead_pieces, h.lead, ofPieces_lead_pieces] at hsub
  exact hsub

/-! ## Normal paths -/

/-- A path with these pieces, of which each names something or goes up. -/
structure IsNormal (p : Path) (lead : Lead) (names : List (List Char)) : Prop where
  eq : p = ofPieces lead names
  plain : lead ≠ .dot
  busy : ∀ n ∈ names, isIdle n = false
  whole : ∀ n ∈ names, '/' ∉ n

theorem IsCanonical.isNormal {p : Path} {names : List (List Char)} (h : p.IsCanonical names) :
    p.IsNormal .root names :=
  ⟨h.1, by simp, fun n hn => (h.2 n hn).busy, fun n hn => (h.2 n hn).whole⟩

theorem leadAndPieces_ofPieces {lead : Lead} {names : List (List Char)} (hlead : lead ≠ .dot)
    (hfirst : ∃ first rest, names = first :: rest ∧ isIdle first = false)
    (hwhole : ∀ n ∈ names, '/' ∉ n) : (ofPieces lead names).leadAndPieces = (lead, names) := by
  obtain ⟨first, rest, rfl, hbusy⟩ := hfirst
  have hsplit : splitOn '/' (joinWith '/' (first :: rest)) = first :: rest :=
    Text.splitOn_joinWith (by simp) hwhole
  cases lead with
  | dot => exact absurd rfl hlead
  | root =>
    rw [leadAndPieces, ofPieces]
    simp only [hsplit]
  | bare =>
    cases first with
    | nil => cases hbusy
    | cons c cs =>
      have hc : c ≠ '/' := fun hc => hwhole _ List.mem_cons_self (by simp [hc])
      have hdot : c :: cs ≠ ['.'] := by
        intro hdot
        rw [hdot] at hbusy
        cases hbusy
      have hchars : ∃ more, joinWith '/' ((c :: cs) :: rest) = c :: more := by
        cases rest with
        | nil => exact ⟨cs, rfl⟩
        | cons next rest => exact ⟨_, rfl⟩
      obtain ⟨more, hmore⟩ := hchars
      rw [hmore] at hsplit
      rw [leadAndPieces, ofPieces]
      simp only [hmore]
      split
      · rename_i heq
        exact absurd (List.cons.inj heq).1 hc
      · rw [hsplit]
        split
        · rename_i heq
          exact absurd (List.cons.inj heq).1 hdot
        · rfl

namespace IsNormal

variable {p dir : Path} {lead : Lead} {names : List (List Char)}

theorem leadAndPieces (h : p.IsNormal lead names) (hne : names ≠ []) :
    p.leadAndPieces = (lead, names) := by
  rw [h.eq]
  refine leadAndPieces_ofPieces h.plain ?_ h.whole
  cases names with
  | nil => exact absurd rfl hne
  | cons first rest => exact ⟨first, rest, rfl, h.busy first List.mem_cons_self⟩

theorem lead_eq (h : p.IsNormal lead names) : p.lead = lead := by
  cases names with
  | cons first rest => rw [Path.lead, h.leadAndPieces (by simp)]
  | nil =>
    rw [h.eq]
    cases hlead : lead with
    | dot => exact absurd hlead h.plain
    | root => rfl
    | bare => rfl

theorem pieces_eq (h : p.IsNormal lead names) (hne : names ≠ []) : p.pieces = names := by
  rw [Path.pieces, h.leadAndPieces hne]

theorem stepsOf_pieces (h : p.IsNormal lead names) : stepsOf p.pieces = stepsOf names := by
  cases names with
  | cons first rest => rw [h.pieces_eq (by simp)]
  | nil =>
    rw [h.eq]
    cases hlead : lead with
    | dot => exact absurd hlead h.plain
    | root => rfl
    | bare => rfl

theorem parent (h : p.IsNormal lead names) (hne : names ≠ []) :
    ∃ dir, p.parent = some dir ∧ dir.IsNormal lead names.dropLast := by
  have hinit : ∀ n ∈ names.dropLast, n ∈ names := fun n hn => List.dropLast_subset names hn
  refine ⟨ofPieces lead names.dropLast, ?_, rfl, h.plain, fun n hn => h.busy n (hinit n hn),
    fun n hn => h.whole n (hinit n hn)⟩
  unfold Path.parent
  rw [h.pieces_eq hne, h.lead_eq, dropIdleEnd_of_busy h.busy]
  split
  · exact absurd rfl hne
  · exact absurd rfl hne
  · rw [dropIdleEnd_of_busy fun n hn => h.busy n (hinit n hn)]

theorem chars_eq_nil_iff (h : p.IsNormal lead names) :
    p.chars = [] ↔ lead = .bare ∧ names = [] := by
  rw [h.eq]
  cases hlead : lead with
  | dot => exact absurd hlead h.plain
  | root => simp [ofPieces]
  | bare =>
    cases names with
    | nil => simp [ofPieces, joinWith]
    | cons first rest =>
      have hbusy := h.busy first List.mem_cons_self
      cases first with
      | nil => cases hbusy
      | cons c cs => cases rest <;> simp [ofPieces, joinWith]

/-- No slash stands at the end of a normal path, unless it is the root. -/
theorem getLast?_chars (h : p.IsNormal lead names) (hne : names ≠ []) :
    p.chars.getLast? ≠ some '/' := by
  obtain ⟨front, last, rfl⟩ : ∃ front last, names = front ++ [last] :=
    ⟨names.dropLast, names.getLast hne, (List.dropLast_concat_getLast hne).symm⟩
  have hbusy := h.busy last (by simp)
  have hwhole := h.whole last (by simp)
  obtain ⟨init, c, rfl⟩ : ∃ init c, last = init ++ [c] := by
    rcases List.eq_nil_or_concat last with rfl | ⟨init, c, rfl⟩
    · cases hbusy
    · exact ⟨init, c, by rw [List.concat_eq_append]⟩
  have hc : c ≠ '/' := fun hc => hwhole (by simp [hc])
  have hend : ∃ more, joinWith '/' (front ++ [init ++ [c]]) = more ++ [c] := by
    cases front with
    | nil => exact ⟨init, rfl⟩
    | cons first front =>
      rw [Text.joinWith_append (by simp) (by simp)]
      exact ⟨joinWith '/' (first :: front) ++ '/' :: init, by simp [joinWith]⟩
  obtain ⟨more, hmore⟩ := hend
  rw [h.eq]
  cases hlead : lead with
  | dot => exact absurd hlead h.plain
  | root =>
    rw [ofPieces, hmore, ← List.cons_append, List.getLast?_concat]
    simpa using hc
  | bare =>
    rw [ofPieces, hmore, List.getLast?_concat]
    simpa using hc

theorem join (h : dir.IsNormal lead names) {rest : List (List Char)}
    (hfirst : ∃ first more, rest = first :: more ∧ isIdle first = false)
    (hwhole : ∀ n ∈ rest, '/' ∉ n) :
    dir.join ⟨joinWith '/' rest⟩ = ofPieces lead (names ++ rest) := by
  have hrest : rest ≠ [] := by
    obtain ⟨first, more, rfl, -⟩ := hfirst
    simp
  have hrelative : Path.isAbsolute ⟨joinWith '/' rest⟩ = false := by
    have hbare : Lead.bare ≠ .dot := by decide
    have hlead := congrArg Prod.fst (leadAndPieces_ofPieces hbare hfirst hwhole)
    rw [ofPieces] at hlead
    rw [isAbsolute, Path.lead, hlead]
    rfl
  unfold Path.join
  rw [hrelative, Bool.false_or]
  by_cases hempty : dir.chars = []
  · obtain ⟨rfl, rfl⟩ := h.chars_eq_nil_iff.1 hempty
    rw [hempty]
    rfl
  · rw [if_neg (by simpa using hempty)]
    by_cases hne : names = []
    · subst hne
      have hroot : lead = .root := by
        cases hlead : lead with
        | dot => exact absurd hlead h.plain
        | root => rfl
        | bare => exact absurd (h.chars_eq_nil_iff.2 ⟨hlead, rfl⟩) hempty
      subst hroot
      rw [h.eq]
      rfl
    · rw [if_neg (by simpa using h.getLast?_chars hne), h.eq]
      cases hlead : lead with
      | dot => exact absurd hlead h.plain
      | root => simp [ofPieces, Text.joinWith_append hne hrest]
      | bare => simp [ofPieces, Text.joinWith_append hne hrest]

end IsNormal

theorem busy_foldl_stackStep (rooted : Bool) : ∀ (steps : List Component)
    (stack : List (List Char)),
    (∀ n, Component.name n ∈ steps → isIdle n = false ∧ '/' ∉ n) →
    (∀ n ∈ stack, isIdle n = false ∧ '/' ∉ n) →
    ∀ n ∈ steps.foldl (stackStep rooted) stack, isIdle n = false ∧ '/' ∉ n
  | [], _, _, hstack => hstack
  | c :: steps, stack, hsteps, hstack => by
    refine busy_foldl_stackStep rooted steps _
      (fun n hn => hsteps n (List.mem_cons_of_mem c hn)) ?_
    have hdots : isIdle dotDot = false ∧ '/' ∉ dotDot := by decide
    cases c with
    | root => exact hstack
    | here => exact hstack
    | name n => exact List.forall_mem_cons.2 ⟨hsteps n List.mem_cons_self, hstack⟩
    | up =>
      cases stack with
      | nil =>
        cases rooted with
        | true => exact hstack
        | false => exact List.forall_mem_cons.2 ⟨hdots, hstack⟩
      | cons top below =>
        rw [stackStep]
        split
        · exact List.forall_mem_cons.2 ⟨hdots, hstack⟩
        · exact fun n hn => hstack n (List.mem_cons_of_mem top hn)

theorem slash_not_mem_pieces {p : Path} {piece : List Char} (h : piece ∈ p.pieces) :
    '/' ∉ piece := by
  unfold pieces leadAndPieces at h
  split at h
  · exact Text.not_mem_of_mem_splitOn h
  · split at h
    · rename_i heq
      exact Text.not_mem_of_mem_splitOn (by rw [heq]; exact List.mem_cons_of_mem _ h)
    · exact Text.not_mem_of_mem_splitOn h

theorem isNormal_resolvedNames (p : Path) :
    p.normalize.IsNormal (if p.isAbsolute then .root else .bare)
      (resolvedNames p.isAbsolute p.components) := by
  have hnames : ∀ n ∈ resolvedNames p.isAbsolute p.components,
      isIdle n = false ∧ '/' ∉ n := by
    intro n hn
    refine busy_foldl_stackStep _ p.components [] (fun m hm => ?_) (fun m hm => by cases hm) n
      (List.mem_reverse.1 hn)
    unfold components at hm
    rcases List.mem_append.1 hm with hm | hm
    · cases hlead : p.lead <;> simp [hlead, Lead.steps] at hm
    · have hname := isName_of_mem_stepsOf (fun _ => slash_not_mem_pieces) hm
      exact ⟨hname.busy, hname.whole⟩
  refine ⟨rfl, ?_, fun n hn => (hnames n hn).1, fun n hn => (hnames n hn).2⟩
  split <;> simp

theorem isNormal_normalize (p : Path) : ∃ lead names, p.normalize.IsNormal lead names :=
  ⟨_, _, isNormal_resolvedNames p⟩

/-! ## What is left behind a directory -/

theorem ofPiece_inj {p q : List Char} (h : Component.ofPiece p = Component.ofPiece q) :
    p = q := by
  unfold Component.ofPiece at h
  split at h <;> split at h <;> simp_all

/-- Dropping the steps of some names takes off pieces that are these names but for idle ones. -/
theorem trims_of_dropSteps : ∀ {names ps rest : List (List Char)},
    (∀ n ∈ names, isIdle n = false) → dropSteps (stepsOf names) ps = some rest →
      ∃ front, ps = front ++ rest ∧ Trims front names
  | [], ps, rest, _, h => by
    cases ps <;> cases h <;> exact ⟨[], rfl, .nil⟩
  | n :: names, [], rest, hnames, h => by
    rw [stepsOf_cons, if_neg (by simp [hnames n List.mem_cons_self])] at h
    cases h
  | n :: names, piece :: ps, rest, hnames, h => by
    have hsteps : stepsOf (n :: names) = Component.ofPiece n :: stepsOf names := by
      rw [stepsOf_cons, if_neg (by simp [hnames n List.mem_cons_self])]
      rfl
    rw [hsteps, dropSteps] at h
    split at h
    · rename_i hidle
      rw [← hsteps] at h
      obtain ⟨front, rfl, hfront⟩ := trims_of_dropSteps hnames h
      exact ⟨piece :: front, rfl, .drop hidle hfront⟩
    · split at h
      · rename_i heq
        have hpiece := ofPiece_inj heq
        subst hpiece
        obtain ⟨front, rfl, hfront⟩ :=
          trims_of_dropSteps (fun m hm => hnames m (List.mem_cons_of_mem piece hm)) h
        exact ⟨piece :: front, rfl, .keep piece hfront⟩
      · cases h

theorem dropSteps_suffix : ∀ {steps : List Component} {ps rest : List (List Char)},
    dropSteps steps ps = some rest → rest <:+ ps
  | [], ps, rest, h => by
    cases ps <;> cases h <;> exact List.suffix_refl _
  | step :: steps, [], rest, h => by cases h
  | step :: steps, piece :: ps, rest, h => by
    rw [dropSteps] at h
    split at h
    · exact (dropSteps_suffix h).trans (List.suffix_cons piece ps)
    · split at h
      · exact (dropSteps_suffix h).trans (List.suffix_cons piece ps)
      · cases h

theorem strip?_sublist {p dir q : Path} (h : p.strip? dir = some q) :
    List.Sublist q.chars p.chars := by
  have hend : ∀ ps : List (List Char), List.Sublist (dropIdleEnd ps) ps :=
    fun ps => (trims_dropIdleEnd ps).sublist
  have hp := ofPieces_lead_pieces p
  unfold strip? at h
  split at h
  · cases h
    have hsub := ofPieces_sublist p.lead (hend p.pieces)
    rw [hp] at hsub
    exact hsub
  · split at h
    · obtain ⟨rest, hrest, rfl⟩ := Option.map_eq_some_iff.1 h
      have hsub := ((hend _).trans (List.dropWhile_sublist isIdle)).trans
        (dropSteps_suffix hrest).sublist
      have hpieces := joinWith_sublist_ofPieces p.lead p.pieces
      rw [hp] at hpieces
      exact (Text.joinWith_sublist hsub).trans hpieces
    · cases h

theorem dropSteps_append : ∀ {names : List (List Char)} (rest : List (List Char)),
    (∀ n ∈ names, isIdle n = false) → dropSteps (stepsOf names) (names ++ rest) = some rest
  | [], rest, _ => by cases rest <;> rfl
  | n :: names, rest, hnames => by
    have hn := hnames n List.mem_cons_self
    rw [stepsOf_cons, if_neg (by simp [hn]), List.singleton_append, List.cons_append, dropSteps,
      if_neg (by simp [hn]), if_pos rfl]
    exact dropSteps_append rest fun m hm => hnames m (List.mem_cons_of_mem n hm)

/-- A path is absolute or goes on, as it is written, where a directory ends. -/
def StartsIn (dir p : Path) : Prop :=
  p.isAbsolute = true ∨ dir.chars = [] ∨ ∃ more, p.chars = dir.chars ++ '/' :: more

theorem join_of_isAbsolute (dir : Path) {p : Path} (h : p.isAbsolute = true) :
    dir.join p = p := by
  rw [Path.join, h]
  rfl

theorem join_of_chars_eq_nil {dir : Path} (p : Path) (h : dir.chars = []) : dir.join p = p := by
  rw [Path.join, h]
  simp

theorem StartsIn.join {dir p : Path} (h : StartsIn dir p) (q : Path) :
    StartsIn dir (p.join q) := by
  unfold Path.join
  split
  · rename_i hq
    rcases Bool.or_eq_true _ _ ▸ hq with hq | hempty
    · exact .inl hq
    · have hp : p.chars = [] := by simpa using hempty
      rcases h with habs | hdir | ⟨more, hmore⟩
      · obtain ⟨rest, hrest⟩ := (isAbsolute_iff p).1 habs
        rw [hp] at hrest
        cases hrest
      · exact .inr (.inl hdir)
      · rw [hp] at hmore
        simp at hmore
  · have hchars : ∀ tail : List Char, StartsIn dir ⟨p.chars ++ tail⟩ := by
      intro tail
      rcases h with habs | hdir | ⟨more, hmore⟩
      · obtain ⟨rest, hrest⟩ := (isAbsolute_iff p).1 habs
        exact .inl ((isAbsolute_iff _).2 ⟨rest ++ tail, by rw [hrest]; rfl⟩)
      · exact .inr (.inl hdir)
      · exact .inr (.inr ⟨more ++ tail, by rw [hmore]; simp⟩)
    split <;> exact hchars _

theorem startsIn_join {lead : Lead} {names : List (List Char)} {dir : Path}
    (h : dir.IsNormal lead names) (q : Path) : StartsIn dir (dir.join q) := by
  unfold Path.join
  split
  · rename_i hq
    rcases Bool.or_eq_true _ _ ▸ hq with hq | hempty
    · exact .inl hq
    · exact .inr (.inl (by simpa using hempty))
  · split
    · rename_i hlast
      -- only the root ends in a slash
      have hnames : names = [] := by
        by_contra hne
        exact h.getLast?_chars hne (by simpa using hlast)
      subst hnames
      rcases hlead : lead with _ | _ | _
      · exact .inr (.inl (h.chars_eq_nil_iff.2 ⟨hlead, rfl⟩))
      · refine .inl ((isAbsolute_iff _).2 ⟨q.chars, ?_⟩)
        rw [h.eq, hlead]
        rfl
      · exact absurd hlead h.plain
    · exact .inr (.inr ⟨q.chars, rfl⟩)

theorem StartsIn.pieces {lead : Lead} {names : List (List Char)} {dir p : Path}
    (hdir : dir.IsNormal lead names) (hne : dir.chars ≠ []) (h : StartsIn dir p)
    (hp : p.isAbsolute = false) :
    p.lead = lead ∧ names ≠ [] ∧ ∃ rest, p.pieces = names ++ rest := by
  rcases h with habs | hempty | ⟨more, hmore⟩
  · rw [habs] at hp
    cases hp
  · exact absurd hempty hne
  · have hroot : lead ≠ .root := by
      rintro rfl
      have habs : p.isAbsolute = true := by
        rw [isAbsolute_iff, hmore, hdir.eq]
        exact ⟨_, rfl⟩
      rw [habs] at hp
      cases hp
    have hbare : lead = .bare := by
      cases hlead : lead with
      | bare => rfl
      | root => exact absurd hlead hroot
      | dot => exact absurd hlead hdir.plain
    have hnames : names ≠ [] := fun hnil => hne (hdir.chars_eq_nil_iff.2 ⟨hbare, hnil⟩)
    have hp' : p = ofPieces lead (names ++ splitOn '/' more) := by
      obtain ⟨_⟩ := p
      dsimp only at hmore
      rw [hmore, hdir.eq, hbare, ofPieces, ofPieces,
        Text.joinWith_append hnames (Text.splitOn_ne_nil _ _), Text.joinWith_splitOn]
    have hlp : p.leadAndPieces = (lead, names ++ splitOn '/' more) := by
      rw [hp']
      refine leadAndPieces_ofPieces hdir.plain ?_ fun n hn => ?_
      · cases hcons : names with
        | nil => exact absurd hcons hnames
        | cons first rest =>
          exact ⟨first, _, rfl, hdir.busy first (by rw [hcons]; exact List.mem_cons_self)⟩
      · rcases List.mem_append.1 hn with hn | hn
        · exact hdir.whole n hn
        · exact Text.not_mem_of_mem_splitOn hn
    exact ⟨by rw [Path.lead, hlp], hnames, _, by rw [Path.pieces, hlp]⟩

theorem stepsOf_eq_nil_iff {names : List (List Char)} (h : ∀ n ∈ names, isIdle n = false) :
    stepsOf names = [] ↔ names = [] := by
  cases names with
  | nil => simp [stepsOf]
  | cons n names => simp [stepsOf_cons, h n List.mem_cons_self]

theorem IsNormal.components_eq_nil_iff {lead : Lead} {names : List (List Char)} {dir : Path}
    (h : dir.IsNormal lead names) : dir.components = [] ↔ dir.chars = [] := by
  rw [h.chars_eq_nil_iff, components, h.lead_eq, h.stepsOf_pieces, List.append_eq_nil_iff,
    stepsOf_eq_nil_iff h.busy]
  cases lead <;> simp [Lead.steps]

theorem exists_busy_of_dropWhile {ps : List (List Char)}
    (h : dropIdleEnd (ps.dropWhile isIdle) ≠ []) :
    ∃ first more, dropIdleEnd (ps.dropWhile isIdle) = first :: more ∧ isIdle first = false := by
  cases hend : dropIdleEnd (ps.dropWhile isIdle) with
  | nil => exact absurd hend h
  | cons first more =>
    refine ⟨first, more, rfl, ?_⟩
    have hfront : dropIdleEnd (ps.dropWhile isIdle) <+: ps.dropWhile isIdle := by
      have hsuffix := List.dropWhile_suffix isIdle (l := (ps.dropWhile isIdle).reverse)
      have hprefix := List.reverse_prefix.2 hsuffix
      rw [List.reverse_reverse] at hprefix
      exact hprefix
    rw [hend] at hfront
    obtain ⟨tail, htail⟩ := hfront
    have hhead := List.head_dropWhile_not isIdle (l := ps) (by rw [← htail]; simp)
    simpa [← htail] using hhead

theorem chars_ne_nil_of_pieces {p : Path} {first : List Char} {more : List (List Char)}
    (h : p.pieces = first :: more) (hbusy : isIdle first = false) : p.chars ≠ [] := by
  obtain ⟨chars⟩ := p
  rintro rfl
  -- the empty path has one piece, which is idle
  cases h
  cases hbusy

/-- **A path that is seen from a directory is found again from there**, but for idle pieces, as long
as it leads on behind the directory. -/
theorem IsNormal.trimmed_join_strip? {lead : Lead} {names : List (List Char)} {dir p : Path}
    (h : dir.IsNormal lead names) (hin : StartsIn dir p) (hend : dropIdleEnd p.pieces = p.pieces)
    (hon : p.lead = lead → ¬ Trims p.pieces names) :
    Trimmed p (dir.join ((p.strip? dir).getD p)) := by
  unfold strip?
  by_cases hempty : dir.chars = []
  · rw [if_pos (h.components_eq_nil_iff.2 hempty), hend, ofPieces_lead_pieces, Option.getD_some,
      join_of_chars_eq_nil p hempty]
    exact .refl p
  · have habsolute : p.isAbsolute = true → Trimmed p (dir.join p) := by
      intro habs
      rw [join_of_isAbsolute dir habs]
      exact .refl p
    have hrelative := hin.pieces h hempty
    rw [if_neg fun hnil => hempty (h.components_eq_nil_iff.1 hnil), h.lead_eq, h.stepsOf_pieces]
    split
    · rename_i hlead
      cases hdrop : dropSteps (stepsOf names) p.pieces with
      | none =>
        refine habsolute (by_contra fun hp => ?_)
        obtain ⟨-, -, rest, hrest⟩ := hrelative (by simpa using hp)
        rw [hrest, dropSteps_append rest h.busy] at hdrop
        cases hdrop
      | some rest =>
        obtain ⟨front, hsplit, hfront⟩ := trims_of_dropSteps h.busy hdrop
        have hrest : Trims rest (dropIdleEnd (rest.dropWhile isIdle)) :=
          (trims_dropWhile rest).trans (trims_dropIdleEnd _)
        have hpieces := hfront.append hrest
        rw [← hsplit] at hpieces
        have hne : dropIdleEnd (rest.dropWhile isIdle) ≠ [] := by
          intro hnil
          rw [hnil, List.append_nil] at hpieces
          exact hon hlead hpieces
        obtain ⟨first, more, hcons, hbusy⟩ := exists_busy_of_dropWhile hne
        have hwhole : ∀ n ∈ names ++ dropIdleEnd (rest.dropWhile isIdle), '/' ∉ n :=
          fun n hn => slash_not_mem_pieces (hpieces.sublist.subset hn)
        have hfirst : ∃ head tail,
            names ++ dropIdleEnd (rest.dropWhile isIdle) = head :: tail ∧ isIdle head = false := by
          cases names with
          | nil => exact ⟨first, more, hcons, hbusy⟩
          | cons n names => exact ⟨n, _, rfl, h.busy n List.mem_cons_self⟩
        have hlp := leadAndPieces_ofPieces h.plain hfirst hwhole
        rw [Option.map_some, Option.getD_some, h.join ⟨first, more, hcons, hbusy⟩
          fun n hn => hwhole n (List.mem_append_right names hn)]
        have hfound : (ofPieces lead (names ++ dropIdleEnd (rest.dropWhile isIdle))).pieces =
            names ++ dropIdleEnd (rest.dropWhile isIdle) := by rw [Path.pieces, hlp]
        refine ⟨by rw [Path.lead, hlp, hlead], by rw [hfound]; exact hpieces, fun _ => ?_⟩
        obtain ⟨head, tail, hhead, hheadBusy⟩ := hfirst
        exact chars_ne_nil_of_pieces (hfound.trans hhead) hheadBusy
    · rename_i hlead
      rw [Option.getD_none]
      refine habsolute (by_contra fun hp => ?_)
      exact hlead (hrelative (by simpa using hp)).1

end Path

end Conformance
