import Conformance.Path.Basic
import Mathlib.Data.List.TakeWhile
/-!
# Canonical paths

A canonical path is absolute and has neither dots nor double dots: its text is its names, each
behind a slash.  Normalizing an absolute path gives a canonical one, and so a canonical path
says, by its text alone, which place it can lead to.
-/
namespace Conformance

open Text (splitOn joinWith)

namespace Text

theorem splitOn_of_not_mem {sep : Char} : ∀ {piece : List Char}, sep ∉ piece →
    splitOn sep piece = [piece]
  | [], _ => rfl
  | c :: piece, h => by
    have hc : c ≠ sep := fun hc => h (by simp [hc])
    rw [splitOn, if_neg hc, splitOn_of_not_mem fun hm => h (List.mem_cons_of_mem c hm)]

theorem splitOn_append_cons {sep : Char} (cs : List Char) : ∀ {piece : List Char}, sep ∉ piece →
    splitOn sep (piece ++ sep :: cs) = piece :: splitOn sep cs
  | [], _ => by simp [splitOn]
  | c :: piece, h => by
    have hc : c ≠ sep := fun hc => h (by simp [hc])
    rw [List.cons_append, splitOn, if_neg hc,
      splitOn_append_cons cs fun hm => h (List.mem_cons_of_mem c hm)]

theorem splitOn_joinWith {sep : Char} : ∀ {pieces : List (List Char)}, pieces ≠ [] →
    (∀ piece ∈ pieces, sep ∉ piece) → splitOn sep (joinWith sep pieces) = pieces
  | [], h, _ => absurd rfl h
  | [piece], _, h => splitOn_of_not_mem (h piece List.mem_cons_self)
  | piece :: next :: pieces, _, h => by
    rw [joinWith, splitOn_append_cons _ (h piece List.mem_cons_self),
      splitOn_joinWith (by simp) fun p hp => h p (List.mem_cons_of_mem piece hp)]
    simp

theorem not_mem_of_mem_splitOn {sep : Char} : ∀ {cs piece : List Char}, piece ∈ splitOn sep cs →
    sep ∉ piece
  | [], piece, h => by
    simp only [splitOn, List.mem_singleton] at h
    simp [h]
  | c :: cs, piece, h => by
    rw [splitOn] at h
    split at h
    · rcases List.mem_cons.1 h with rfl | h
      · simp
      · exact not_mem_of_mem_splitOn h
    · rename_i hc
      cases hs : splitOn sep cs with
      | nil => exact absurd hs (splitOn_ne_nil sep cs)
      | cons first rest =>
        rw [hs] at h
        rcases List.mem_cons.1 h with rfl | h
        · have hfirst : sep ∉ first := not_mem_of_mem_splitOn (by rw [hs]; exact List.mem_cons_self)
          simp [hfirst, Ne.symm hc]
        · exact not_mem_of_mem_splitOn (by rw [hs]; exact List.mem_cons_of_mem first h)

end Text

namespace Path

/-! ## Absolute paths -/

theorem isAbsolute_iff (p : Path) : p.isAbsolute = true ↔ ∃ rest, p.chars = '/' :: rest := by
  unfold isAbsolute lead leadAndPieces
  constructor
  · intro h
    split at h
    · rename_i rest hr
      exact ⟨rest, hr⟩
    · split at h <;> cases h
  · rintro ⟨rest, hr⟩
    rw [hr]
    rfl

theorem isAbsolute_ofPieces_root (names : List (List Char)) :
    (ofPieces .root names).isAbsolute = true := (isAbsolute_iff _).2 ⟨_, rfl⟩

theorem isAbsolute_join {p : Path} (h : p.isAbsolute = true) (q : Path) :
    (p.join q).isAbsolute = true := by
  obtain ⟨rest, hr⟩ := (isAbsolute_iff p).1 h
  unfold join
  split
  · rename_i hq
    rw [Bool.or_eq_true] at hq
    rcases hq with hq | hq
    · exact hq
    · rw [hr] at hq
      cases hq
  · split <;> exact (isAbsolute_iff _).2 ⟨_, by rw [hr]; rfl⟩

theorem lead_eq_root {p : Path} (h : p.isAbsolute = true) : p.lead = .root := by
  simpa [isAbsolute] using h

theorem pieces_of_chars {p : Path} {rest : List Char} (h : p.chars = '/' :: rest) :
    p.pieces = splitOn '/' rest := by
  obtain ⟨_⟩ := p
  cases h
  rfl

theorem isAbsolute_parent {p q : Path} (h : p.isAbsolute = true) (hq : p.parent = some q) :
    q.isAbsolute = true := by
  unfold parent at hq
  rw [lead_eq_root h] at hq
  split at hq
  · rename_i heq
    cases heq
  · cases hq
  · rename_i l _ heq
    cases hq
    exact isAbsolute_ofPieces_root _

/-! ## Names -/

/-- A piece that names something, and is one piece. -/
structure IsName (piece : List Char) : Prop where
  busy : isIdle piece = false
  notUp : piece ≠ dotDot
  whole : '/' ∉ piece

theorem isName_of_mem_stepsOf {pieces : List (List Char)} (h : ∀ piece ∈ pieces, '/' ∉ piece)
    {n : List Char} (hn : Component.name n ∈ stepsOf pieces) : IsName n := by
  obtain ⟨piece, hp, hstep⟩ := List.mem_map.1 hn
  obtain ⟨hp, hbusy⟩ := List.mem_filter.1 hp
  unfold Component.ofPiece at hstep
  split at hstep
  · cases hstep
  · rename_i hup
    cases hstep
    exact ⟨by simpa using hbusy, by simpa [dotDot] using hup, h n hp⟩

theorem isName_foldl_stackStep : ∀ (steps : List Component) (stack : List (List Char)),
    (∀ n, Component.name n ∈ steps → IsName n) → (∀ n ∈ stack, IsName n) →
    ∀ n ∈ steps.foldl (stackStep true) stack, IsName n
  | [], _, _, hstack => hstack
  | c :: steps, stack, hsteps, hstack => by
    refine isName_foldl_stackStep steps _ (fun n hn => hsteps n (List.mem_cons_of_mem c hn)) ?_
    cases c with
    | root => exact hstack
    | here => exact hstack
    | name n =>
      intro m hm
      rcases List.mem_cons.1 hm with rfl | hm
      · exact hsteps m List.mem_cons_self
      · exact hstack m hm
    | up =>
      cases stack with
      | nil => exact fun m hm => by cases hm
      | cons top below =>
        have htop := hstack top List.mem_cons_self
        simp only [stackStep, htop.notUp, if_false]
        exact fun m hm => hstack m (List.mem_cons_of_mem top hm)

/-! ## Canonical paths -/

/-- The names of the place that a canonical path can lead to. -/
def IsCanonical (p : Path) (names : List (List Char)) : Prop :=
  p = ofPieces .root names ∧ ∀ n ∈ names, IsName n

theorem isCanonical_resolvedNames {p : Path} (h : p.isAbsolute = true) :
    p.normalize.IsCanonical (resolvedNames true p.components) := by
  obtain ⟨rest, hr⟩ := (isAbsolute_iff p).1 h
  refine ⟨by rw [normalize, h, if_pos rfl], fun n hn => ?_⟩
  have hsteps : ∀ n, Component.name n ∈ p.components → IsName n := by
    intro n hn
    unfold components at hn
    rw [lead_eq_root h] at hn
    rcases List.mem_append.1 hn with hn | hn
    · simp [Lead.steps] at hn
    · rw [pieces_of_chars hr] at hn
      exact isName_of_mem_stepsOf (fun _ hp => Text.not_mem_of_mem_splitOn hp) hn
  exact isName_foldl_stackStep _ [] hsteps (fun m hm => by cases hm) n (List.mem_reverse.1 hn)

theorem isCanonical_normalize {p : Path} (h : p.isAbsolute = true) :
    ∃ names, p.normalize.IsCanonical names := ⟨_, isCanonical_resolvedNames h⟩

theorem IsCanonical.isAbsolute {p : Path} {names : List (List Char)} (h : p.IsCanonical names) :
    p.isAbsolute = true := by
  rw [h.1]
  exact isAbsolute_ofPieces_root names

theorem IsCanonical.pieces {p : Path} {names : List (List Char)} (h : p.IsCanonical names)
    (hne : names ≠ []) : p.pieces = names := by
  have hchars : p.chars = '/' :: joinWith '/' names := by rw [h.1, ofPieces]
  rw [pieces_of_chars hchars]
  exact Text.splitOn_joinWith hne fun n hn => (h.2 n hn).whole

theorem IsCanonical.parent {p : Path} {names : List (List Char)} (h : p.IsCanonical names)
    (hne : names ≠ []) : ∃ dir, p.parent = some dir ∧ dir.isAbsolute = true := by
  have hbusy : isIdle (names.getLast hne) = false := (h.2 _ (List.getLast_mem hne)).busy
  have hend : dropIdleEnd p.pieces ≠ [] := by
    rw [h.pieces hne, dropIdleEnd]
    intro hnil
    have hall := List.dropWhile_eq_nil_iff.1 (List.reverse_eq_nil_iff.1 hnil)
    rw [hall _ (List.mem_reverse.2 (List.getLast_mem hne))] at hbusy
    cases hbusy
  cases hparent : p.parent with
  | some dir => exact ⟨dir, rfl, isAbsolute_parent h.isAbsolute hparent⟩
  | none =>
    unfold Path.parent at hparent
    split at hparent
    · cases hparent
    · rename_i hnil _
      exact absurd hnil hend
    · cases hparent

theorem IsCanonical.pieces_nil {p : Path} (h : p.IsCanonical []) : p.pieces = [[]] := by
  rw [h.1]
  rfl

theorem stepsOf_cons (piece : List Char) (pieces : List (List Char)) :
    stepsOf (piece :: pieces) =
      (if isIdle piece then [] else [Component.ofPiece piece]) ++ stepsOf pieces := by
  unfold stepsOf
  rw [List.filter_cons]
  cases isIdle piece <;> simp

theorem stepsOf_names : ∀ {names : List (List Char)}, (∀ n ∈ names, IsName n) →
    stepsOf names = names.map .name
  | [], _ => rfl
  | n :: names, h => by
    have hn := h n List.mem_cons_self
    have hstep : Component.ofPiece n = .name n := if_neg (by simpa [dotDot] using hn.notUp)
    rw [stepsOf_cons, if_neg (by simp [hn.busy]), hstep,
      stepsOf_names fun m hm => h m (List.mem_cons_of_mem n hm)]
    rfl

theorem foldl_stackStep_names (rooted : Bool) : ∀ (names stack : List (List Char)),
    (names.map Component.name).foldl (stackStep rooted) stack = names.reverse ++ stack
  | [], _ => rfl
  | n :: names, stack => by
    rw [List.map_cons, List.foldl_cons, foldl_stackStep_names rooted names, List.reverse_cons,
      List.append_assoc]
    rfl

theorem IsCanonical.normalize {p : Path} {names : List (List Char)} (h : p.IsCanonical names) :
    p.normalize = p := by
  have hsteps : stepsOf p.pieces = names.map .name := by
    cases names with
    | nil =>
      rw [h.pieces_nil]
      rfl
    | cons n names =>
      rw [h.pieces (by simp)]
      exact stepsOf_names h.2
  have hnames : resolvedNames true p.components = names := by
    rw [resolvedNames, components, lead_eq_root h.isAbsolute, hsteps, Lead.steps,
      List.singleton_append, List.foldl_cons, stackStep, foldl_stackStep_names]
    simp
  rw [Path.normalize, h.isAbsolute, if_pos rfl, hnames, ← h.1]

end Path

end Conformance
