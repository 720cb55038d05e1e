import Conformance.Proofs.Disk.Removing
import Conformance.Proofs.Solution.Order
import Conformance.Solution.Build
/-!
# Cleaning a solution

Cleaning takes files away and nothing else.  What a project file says cannot change by that, so a
solution that still has an order afterwards has the order that it had before.  And a solution that
was cleaned is one whose records are out of reach: the path of each leads nowhere.
-/
namespace Conformance

open Disk (Shrinks)

/-! ## Projects on a smaller disk -/

theorem Project.load_of_shrinks {d d' : Disk} (h : Shrinks d d') {key : Path} {p : Project}
    (hload : Project.load d' key = .ok p) : Project.load d key = .ok p := by
  obtain ⟨text, c, htext, hparse, hconfig⟩ := Solution.load_eq_ok.1 hload
  exact Solution.load_eq_ok.2 ⟨text, c, h.readText htext, hparse, hconfig⟩

namespace Solution

theorem keyOf_of_shrinks {d d' : Disk} (h : Shrinks d d') : keyOf d' = keyOf d := by
  funext p
  unfold keyOf Project.locate
  rw [h.isDir]

theorem projects_of_shrinks {d d' : Disk} (h : Shrinks d d') {root : Path}
    {names : List (List Char)} (hroot : root.IsCanonical names) {ps : List Project}
    (hps : projects d' root = .ok ps) : projects d root = .ok ps := by
  refine projects_transfer (fun _ => True) (fun key p _ hload => ?_) hroot trivial hps
  refine ⟨Project.load_of_shrinks h hload, fun r _ => ⟨trivial, ?_⟩⟩
  rw [keyOf_of_shrinks h]

end Solution

/-! ## What cleaning leaves -/

namespace Project

theorem shrinks_removeFiles : ∀ (ps : List Path) (d : Disk), Shrinks d (removeFiles d ps).2
  | [], d => .refl d
  | p :: ps, d => by
    have hfirst := d.shrinks_removeFile p
    rw [removeFiles]
    split
    · rename_i d' hd'
      rw [hd'] at hfirst
      exact hfirst.trans (shrinks_removeFiles ps d')
    · rename_i d' _ hd'
      rw [hd'] at hfirst
      exact hfirst
    · rename_i d' hd'
      rw [hd'] at hfirst
      have hrest := shrinks_removeFiles ps d'
      split
      · rename_i hd''
        rw [hd''] at hrest
        exact hfirst.trans hrest
      · rename_i hd''
        rw [hd''] at hrest
        exact hfirst.trans hrest

theorem holds_removeFiles : ∀ {ps : List Path} {d d' : Disk} {removed : List Path},
    removeFiles d ps = (.ok removed, d') → ∀ p ∈ ps, d'.holds p = false
  | [], _, _, _, _ => fun p hp => by cases hp
  | p :: ps, d, d', removed, h => by
    have hboth : ∀ {r : Except DiskError Unit} {mid : Disk} {more : List Path},
        d.removeFile p = (r, mid) → r = .ok () ∨ r = .error .notFound →
        removeFiles mid ps = (.ok more, d') → ∀ q ∈ p :: ps, d'.holds q = false := by
      intro r mid more hmid hr hmore q hq
      have hshrinks := shrinks_removeFiles ps mid
      rw [hmore] at hshrinks
      rcases List.mem_cons.1 hq with rfl | hq
      · exact hshrinks.holds (Disk.holds_removeFile hmid hr)
      · exact holds_removeFiles hmore q hq
    rw [removeFiles] at h
    split at h
    · rename_i mid hmid
      exact hboth hmid (.inr rfl) h
    · cases h
    · rename_i mid hmid
      split at h
      · cases h
      · rename_i more d'' hmore
        cases h
        exact hboth hmid (.inl rfl) hmore

theorem shrinks_clean (d : Disk) (p : Project) : Shrinks d (p.clean d).2 :=
  shrinks_removeFiles _ d

end Project

namespace Solution

theorem shrinks_cleanAll : ∀ (ps : List Project) (d : Disk), Shrinks d (cleanAll d ps).2
  | [], d => .refl d
  | p :: ps, d => by
    have hfirst := p.shrinks_clean d
    rw [cleanAll]
    split
    · rename_i hd'
      rw [hd'] at hfirst
      exact hfirst
    · rename_i d' hd'
      rw [hd'] at hfirst
      have hrest := shrinks_cleanAll ps d'
      split
      · rename_i hd''
        rw [hd''] at hrest
        exact hfirst.trans hrest
      · rename_i hd''
        rw [hd''] at hrest
        exact hfirst.trans hrest

theorem holds_cleanAll : ∀ {ps : List Project} {d d' : Disk} {removed : List Path},
    cleanAll d ps = (.ok removed, d') → ∀ p ∈ ps, d'.holds p.buildInfoPath = false
  | [], _, _, _, _ => fun p hp => by cases hp
  | p :: ps, d, d', removed, h => by
    rw [cleanAll] at h
    split at h
    · cases h
    · rename_i first mid hmid
      split at h
      · cases h
      · rename_i more d'' hmore
        cases h
        have hshrinks := shrinks_cleanAll ps mid
        rw [hmore] at hshrinks
        intro q hq
        rcases List.mem_cons.1 hq with rfl | hq
        · refine hshrinks.holds (Project.holds_removeFiles hmid _ ?_)
          exact List.mem_append_right _ List.mem_cons_self
        · exact holds_cleanAll hmore q hq

/-- **A solution that was cleaned has its files and no record in reach.** -/
theorem clean_ok {d d' : Disk} {root : Path} {removed : List Path}
    (h : clean d root = (.ok removed, d')) :
    Shrinks d d' ∧ ∃ ps, projects d root = .ok ps ∧
      ∀ p ∈ ps, d'.holds p.buildInfoPath = false := by
  unfold clean at h
  split at h
  · cases h
  · rename_i ps hps
    have hshrinks := shrinks_cleanAll ps d
    rw [h] at hshrinks
    exact ⟨hshrinks, ps, hps, holds_cleanAll h⟩

end Solution

end Conformance
