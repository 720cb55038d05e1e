import Conformance.Proofs.Disk.Saving
import Conformance.Proofs.Run.ExitCode
/-!
# What a direct run touches

A direct run writes at one point only, when all has been checked: there it saves the outputs of its
program, or is held back and saves none.  So the disk after it is the disk before, or that disk with
the outputs saved one after the other; and saving touches nothing but its paths and the directories
that they go through.
-/
namespace Conformance

open Disk (Edits Wrote)

namespace Disk

/-- One disk is another on which files were saved at no other paths than these: no file is gone,
what is new or not as it was is a file that one of the paths leads to, or a directory that one of
them goes through. -/
structure Touches (paths : List Path) (d d' : Disk) : Prop extends Wrote paths d d' where
  made : ∀ place, d'.find? place = some .dir →
    d.find? place = some .dir ∨ ∃ p ∈ paths, ∃ a ∈ p.above, d'.place? a = some place

def IsAbove (paths : List Path) (a : Path) : Prop := ∃ p ∈ paths, a ∈ p.above

theorem IsAbove.mono {paths paths' : List Path} (h : paths ⊆ paths') :
    ∀ a, IsAbove paths a → IsAbove paths' a := by
  rintro a ⟨p, hp, ha⟩
  exact ⟨p, h hp, ha⟩

theorem touches_of_edits {paths : List Path} {d d' : Disk}
    (h : Edits (IsAbove paths) paths d d') : Touches paths d d' := by
  refine ⟨h.wrote, fun place hdir => ?_⟩
  rcases h.made hdir with hdir | ⟨a, ⟨p, hp, ha⟩, hplace⟩
  · exact .inl hdir
  · exact .inr ⟨p, hp, a, ha, hplace⟩

theorem edits_save (d : Disk) (p : Path) (s : String) :
    Edits (IsAbove [p]) [p] d (d.save p s).2 := by
  have habove : ∀ a ∈ p.above, IsAbove [p] a := fun a ha => ⟨p, List.mem_cons_self, ha⟩
  rcases save_cases d p s with ⟨e, d', h, hedits⟩ | ⟨d', place, h, hedits, -⟩
  · rw [h]
    exact hedits.mono habove (List.nil_subset _)
  · rw [h]
    exact hedits.mono habove (List.Subset.refl _)

theorem edits_saveAll : ∀ (outputs : List (Path × String)) (d : Disk),
    Edits (IsAbove (outputs.map (·.1))) (outputs.map (·.1)) d (d.saveAll outputs).2
  | [], _ => .refl
  | (path, text) :: outputs, d => by
    have hfirst : [path] ⊆ path :: outputs.map (·.1) :=
      List.cons_subset_cons path (List.nil_subset _)
    have hrest := List.subset_cons_self path (outputs.map (·.1))
    rw [saveAll, List.map_cons]
    exact ((edits_save d path text).mono (IsAbove.mono hfirst) hfirst).trans
      ((edits_saveAll outputs _).mono (IsAbove.mono hrest) hrest)

theorem touches_saveAll (d : Disk) (outputs : List (Path × String)) :
    Touches (outputs.map (·.1)) d (d.saveAll outputs).2 :=
  touches_of_edits (edits_saveAll outputs d)

theorem Touches.refl (paths : List Path) (d : Disk) : Touches paths d d :=
  touches_of_edits .refl

end Disk

open Disk (Touches)

theorem Project.emit_disk (d : Disk) (p : Project) (program : Program) (forbidden : Bool) :
    (p.emit d program forbidden).2 =
      if p.noEmit || forbidden then d else (d.saveAll (p.outputs program.files)).2 := by
  unfold emit
  split
  · rfl
  · rw [emitFiles_eq]

namespace DirectRequest

/-- A run holds its outputs back when it has no result or no project, or when the project wants no
outputs: none at all, or none once the check has anything to say. -/
inductive HoldsBack (d : Disk) (r : DirectRequest) : Prop
  | failed {e : CheckError} : (r.run d).1 = .error e → HoldsBack d r
  | unsettled {e : ConfigError} : r.settle d = .error e → HoldsBack d r
  | noEmit {p : Project} : r.settle d = .ok p → p.noEmit = true → HoldsBack d r
  | noEmitOnError {p : Project} {found : List Diagnostic} : r.settle d = .ok p →
      p.noEmitOnError = true → p.check d (p.program d) = .ok found → found ≠ [] → HoldsBack d r

theorem run_disk {d : Disk} {r : DirectRequest} {p : Project} {found : List Diagnostic}
    (hsettle : r.settle d = .ok p) (hcheck : p.check d (p.program d) = .ok found) :
    (r.run d).2 = if p.noEmit || (p.noEmitOnError && !found.isEmpty) then d
      else (d.saveAll (p.outputs (p.program d).files)).2 := by
  rw [run, hsettle]
  dsimp only
  rw [runProject_eq, hcheck]
  exact Project.emit_disk d p (p.program d) _

theorem run_of_check_error {d : Disk} {r : DirectRequest} {p : Project} {e : CheckError}
    (hsettle : r.settle d = .ok p) (hcheck : p.check d (p.program d) = .error e) :
    r.run d = (.error e, d) := by
  rw [run, hsettle]
  dsimp only
  rw [runProject_eq, hcheck]

theorem HoldsBack.run_disk {d : Disk} {r : DirectRequest} (h : r.HoldsBack d) : (r.run d).2 = d := by
  cases hsettle : r.settle d with
  | error e => rw [run, hsettle]
  | ok p =>
    cases hcheck : p.check d (p.program d) with
    | error e => rw [run_of_check_error hsettle hcheck]
    | ok found =>
      rw [DirectRequest.run_disk hsettle hcheck]
      refine if_pos ?_
      cases h with
      | failed hrun =>
        rw [run, hsettle] at hrun
        dsimp only at hrun
        rw [runProject_eq, hcheck] at hrun
        cases hrun
      | unsettled hnone =>
        rw [hsettle] at hnone
        cases hnone
      | noEmit hp hno =>
        cases hsettle.symm.trans hp
        rw [hno, Bool.true_or]
      | noEmitOnError hp hno hfound hne =>
        cases hsettle.symm.trans hp
        cases hcheck.symm.trans hfound
        simp [hno, hne]

theorem run_disk_of_not_holdsBack {d : Disk} {r : DirectRequest} {p : Project}
    (hsettle : r.settle d = .ok p) (h : ¬ r.HoldsBack d) :
    (r.run d).2 = (d.saveAll (p.outputs (p.program d).files)).2 := by
  cases hcheck : p.check d (p.program d) with
  | error e => exact absurd (.failed (by rw [run_of_check_error hsettle hcheck])) h
  | ok found =>
    rw [run_disk hsettle hcheck]
    refine if_neg fun hback => h ?_
    rw [Bool.or_eq_true, Bool.and_eq_true] at hback
    rcases hback with hno | ⟨hno, hfound⟩
    · exact .noEmit hsettle hno
    · exact .noEmitOnError hsettle hno hcheck (by simpa using hfound)

/-- **A direct run touches its outputs and nothing else.** One that holds back leaves the disk as
it is; any other saves the outputs of its program, which are those of the files that were loaded,
are no declarations and carry one, and it touches nothing but their paths. -/
theorem run_touches_outputs (d : Disk) (r : DirectRequest) :
    (r.HoldsBack d → (r.run d).2 = d) ∧
    ∀ p, r.settle d = .ok p →
      (¬ r.HoldsBack d → (r.run d).2 = (d.saveAll (p.outputs (p.program d).files)).2) ∧
      Touches ((p.outputs (p.program d).files).map (·.1)) d (r.run d).2 := by
  refine ⟨fun h => h.run_disk, fun p hsettle => ⟨run_disk_of_not_holdsBack hsettle, ?_⟩⟩
  by_cases hback : r.HoldsBack d
  · rw [hback.run_disk]
    exact .refl _ d
  · rw [run_disk_of_not_holdsBack hsettle hback]
    exact Disk.touches_saveAll d _

end DirectRequest

end Conformance
