import Conformance.Project.Emit
/-!
# What emitting attempts

Emitting saves the outputs of a program one after the other, on a disk that each of them may change,
and goes on when one cannot be saved.  `saveAll` is that and no more; what emitting reports is read
off the list of its attempts (`emitFiles_eq`).
-/
namespace Conformance

/-- An output that was to be saved, and what came of it. -/
abbrev Attempt := Path × Except Disk.SaveError Unit

def Disk.saveAll : Disk → List (Path × String) → List Attempt × Disk
  | d, [] => ([], d)
  | d, (path, text) :: rest =>
    let (result, d) := d.save path text
    let (attempts, d) := saveAll d rest
    ((path, result) :: attempts, d)

namespace Project

def output? (p : Project) (f : SourceFile) : Option (Path × String) :=
  match p.outputPath f, f.output with
  | some path, some text => some (path, text)
  | _, _ => none

def outputs (p : Project) (files : List SourceFile) : List (Path × String) :=
  files.filterMap p.output?

def saved? (a : Attempt) : Option Path :=
  match a.2 with
  | .ok () => some a.1
  | .error _ => none

def failure? (p : Project) (a : Attempt) : Option Diagnostic :=
  match a.2 with
  | .ok () => none
  | .error e => some (p.emitFailure a.1 e.refusal)

/-- **Emitting reports its attempts**: which were saved, and a diagnostic for each that was not. -/
theorem emitFiles_eq (p : Project) : ∀ (files : List SourceFile) (d : Disk),
    p.emitFiles d files =
      ({ written := (d.saveAll (p.outputs files)).1.filterMap saved?
         diagnostics := (d.saveAll (p.outputs files)).1.filterMap p.failure? },
        (d.saveAll (p.outputs files)).2)
  | [], _ => rfl
  | f :: files, d => by
    rw [emitFiles]
    split
    · rename_i path text hpath htext
      have houtput : p.output? f = some (path, text) := by simp [output?, hpath, htext]
      rw [outputs, List.filterMap_cons_some houtput, ← outputs, Disk.saveAll]
      rcases d.save path text with ⟨result, d'⟩
      cases result with
      | ok u =>
        dsimp only
        rw [emitFiles_eq p files d']
        rfl
      | error e =>
        dsimp only
        rw [emitFiles_eq p files d']
        rfl
    · rename_i hnone
      have houtput : p.output? f = none := by
        unfold output?
        split
        · rename_i path text hpath htext
          exact (hnone path text hpath htext).elim
        · rfl
      rw [outputs, List.filterMap_cons_none houtput]
      exact emitFiles_eq p files d

theorem failure?_eq_none {p : Project} {a : Attempt} : p.failure? a = none ↔ a.2 = .ok () := by
  unfold failure?
  cases a.2 <;> simp

theorem emitFiles_diagnostics_eq_nil {p : Project} {files : List SourceFile} {d : Disk} :
    (p.emitFiles d files).1.diagnostics = [] ↔
      ∀ a ∈ (d.saveAll (p.outputs files)).1, a.2 = .ok () := by
  rw [emitFiles_eq]
  simp only [List.filterMap_eq_nil_iff, failure?_eq_none]

theorem emit_diagnostics_eq_nil {d : Disk} {p : Project} {program : Program} :
    (p.emit d program false).1.diagnostics = [] ↔ (p.noEmit = false →
      ∀ a ∈ (d.saveAll (p.outputs program.files)).1, a.2 = .ok ()) := by
  unfold emit
  cases p.noEmit with
  | true => simp
  | false => simp [emitFiles_diagnostics_eq_nil]

end Project

end Conformance
