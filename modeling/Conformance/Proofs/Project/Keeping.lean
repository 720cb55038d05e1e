import Conformance.Proofs.Project.Record
import Conformance.Proofs.Run.Touching
/-!
# What is left of outputs

Outputs are saved one after the other, each at the place that its path leads to.  Sources with
different names can have outputs with one path, and different paths can lead to one place; then the
last output is what is left there (`readText_saveAll`).  So after an emit that had nothing to say,
the path of an output reads back as that output exactly when the last output that leads there has
the same text (`emit_keeps`), and an output that is followed by another at its place is lost without
a word (`not_keepsOutputs_namesakes`).
-/
namespace Conformance

open Disk (Wrote)

namespace Disk

theorem saveAll_cons (d : Disk) (o : Path × String) (rest : List (Path × String)) :
    d.saveAll (o :: rest) =
      ((o.1, (d.save o.1 o.2).1) :: ((d.save o.1 o.2).2.saveAll rest).1,
        ((d.save o.1 o.2).2.saveAll rest).2) := rfl

theorem saveAll_append : ∀ (front back : List (Path × String)) (d : Disk),
    d.saveAll (front ++ back) = ((d.saveAll front).1 ++ ((d.saveAll front).2.saveAll back).1,
      ((d.saveAll front).2.saveAll back).2)
  | [], _, _ => rfl
  | o :: front, back, d => by
    rw [List.cons_append, saveAll_cons, saveAll_append front back, saveAll_cons]
    rfl

/-- **What was saved stays until something else is saved at its place.** -/
theorem resolve_saveAll {front back : List (Path × String)} {o : Path × String} {d d' : Disk}
    (hd' : (d.saveAll (front ++ o :: back)).2 = d')
    (hall : ∀ a ∈ (d.saveAll (front ++ o :: back)).1, a.2 = .ok ()) :
    (∃ place bytes, d'.resolve o.1 = .ok (place, .file bytes)) ∧
      ((∀ o' ∈ back, d'.meet o.1 o'.1 = false) →
        ∃ place, d'.resolve o.1 = .ok (place, .file o.2.toUTF8)) := by
  rw [saveAll_append, saveAll_cons] at hd' hall
  rcases (d.saveAll front).2.save_cases o.1 o.2 with
    ⟨e, mid, hsave, -⟩ | ⟨mid, place, hsave, -, hres⟩
  · have hok := hall (o.1, .error e) (by simp [hsave])
    cases hok
  · rw [hsave] at hd'
    dsimp only at hd'
    have hwrote : Wrote (back.map (·.1)) mid d' := hd' ▸ (touches_saveAll mid back).toWrote
    refine ⟨⟨place, hwrote.grows.resolve_file hres⟩, fun hapart => ⟨place, ?_⟩⟩
    refine hwrote.resolve hres fun w hw => ?_
    obtain ⟨o', ho', rfl⟩ := List.mem_map.1 hw
    exact hapart o' ho'

/-- The text that is left where a path leads, of texts that were saved: the last one there. -/
def lastText? (d : Disk) (outputs : List (Path × String)) (path : Path) : Option String :=
  (outputs.reverse.find? fun o => d.meet path o.1).map (·.2)

/-- **The path of a text that was saved reads as the last text that was saved there.** -/
theorem readText_saveAll {outputs : List (Path × String)} {d d' : Disk}
    (hd' : (d.saveAll outputs).2 = d') (hall : ∀ a ∈ (d.saveAll outputs).1, a.2 = .ok ())
    {o : Path × String} (ho : o ∈ outputs) :
    ∃ text, d'.lastText? outputs o.1 = some text ∧ d'.readText o.1 = .ok text := by
  obtain ⟨front, back, hsplit⟩ := List.append_of_mem ho
  obtain ⟨⟨place, bytes, hres⟩, -⟩ := resolve_saveAll (hsplit ▸ hd') (hsplit ▸ hall)
  have hplace : d'.place? o.1 = some place := place?_eq_some.2 ⟨_, hres⟩
  cases hlast : outputs.reverse.find? fun o' => d'.meet o.1 o'.1 with
  | none =>
    -- a path that leads somewhere leads to its own place
    have hself := List.find?_eq_none.1 hlast o (List.mem_reverse.2 ho)
    rw [meet_of_place? hplace hplace] at hself
    exact absurd rfl hself
  | some last =>
    obtain ⟨hmeet, later, earlier, hsplit, hlater⟩ := List.find?_eq_some_iff_append.1 hlast
    have hsplit : outputs = earlier.reverse ++ last :: later.reverse := by
      rw [← List.reverse_reverse outputs, hsplit]
      simp
    have hsame : d'.place? last.1 = some place := by
      rw [meet, Bool.and_eq_true] at hmeet
      rw [← hplace]
      exact (beq_iff_eq.1 hmeet.2).symm
    have hapart : ∀ o' ∈ later.reverse, d'.meet last.1 o'.1 = false := by
      intro o' ho'
      have hfalse := hlater o' (List.mem_reverse.1 ho')
      rwa [meet, hplace, ← hsame, ← meet, Bool.not_eq_true'] at hfalse
    obtain ⟨place', hleft⟩ := (resolve_saveAll (hsplit ▸ hd') (hsplit ▸ hall)).2 hapart
    obtain ⟨e, hres'⟩ := place?_eq_some.1 hsame
    cases hres'.symm.trans hleft
    cases (find?_of_resolve hres).symm.trans (find?_of_resolve hleft)
    exact ⟨last.2, by rw [lastText?, hlast, Option.map_some],
      readText_eq_ok.2 ⟨place, _, hres, BuildInfo.fromUTF8?_toUTF8 last.2⟩⟩

end Disk

namespace Project

/-- Every output of a program reads back at its path. -/
def KeepsOutputs (d : Disk) (p : Project) (program : Program) : Prop :=
  ∀ f ∈ program.files, ∀ path text, p.outputPath f = some path → f.output = some text →
    d.readText path = .ok text

/-! ## Emitting -/

theorem output?_eq_some {p : Project} {f : SourceFile} {path : Path} {text : String} :
    p.output? f = some (path, text) ↔ p.outputPath f = some path ∧ f.output = some text := by
  unfold output?
  cases p.outputPath f <;> cases f.output <;> simp

theorem keepsOutputs_iff {d : Disk} {p : Project} {program : Program} :
    p.KeepsOutputs d program ↔ ∀ o ∈ p.outputs program.files, d.readText o.1 = .ok o.2 := by
  constructor
  · rintro h ⟨path, text⟩ ho
    obtain ⟨f, hf, hfo⟩ := List.mem_filterMap.1 ho
    obtain ⟨hpath, htext⟩ := output?_eq_some.1 hfo
    exact h f hf path text hpath htext
  · intro h f hf path text hpath htext
    exact h (path, text) (List.mem_filterMap.2 ⟨f, hf, output?_eq_some.2 ⟨hpath, htext⟩⟩)

theorem map_outputs (p : Project) (files : List SourceFile) :
    ((p.outputs files).map (·.1)).map some =
      (files.filter fun f => !f.isDeclaration && f.output.isSome).map p.outputPath := by
  induction files with
  | nil => rfl
  | cons f files ih =>
    cases hdecl : f.isDeclaration with
    | true =>
      have hnone : p.output? f = none := by simp [output?, outputPath, hdecl]
      rw [outputs, List.filterMap_cons_none hnone, List.filter_cons_of_neg (by simp [hdecl])]
      exact ih
    | false =>
      cases htext : f.output with
      | none =>
        have hnone : p.output? f = none := by simp [output?, htext]
        rw [outputs, List.filterMap_cons_none hnone, List.filter_cons_of_neg (by simp [htext])]
        exact ih
      | some text =>
        obtain ⟨path, hpath⟩ : ∃ path, p.outputPath f = some path := by simp [outputPath, hdecl]
        rw [outputs, List.filterMap_cons_some (output?_eq_some.2 ⟨hpath, htext⟩),
          List.filter_cons_of_pos (by simp [hdecl, htext]), List.map_cons, List.map_cons,
          List.map_cons, hpath]
        exact congrArg _ ih

theorem filterMap_saved? {attempts : List Attempt} (h : ∀ a ∈ attempts, a.2 = .ok ()) :
    attempts.filterMap saved? = attempts.map (·.1) := by
  rw [← List.filterMap_eq_map]
  refine List.filterMap_congr fun a ha => ?_
  rw [saved?, h a ha]
  rfl

theorem map_saveAll : ∀ (outputs : List (Path × String)) (d : Disk),
    (d.saveAll outputs).1.map (·.1) = outputs.map (·.1)
  | [], _ => rfl
  | o :: outputs, d => by
    rw [Disk.saveAll_cons, List.map_cons, List.map_cons, map_saveAll outputs]

/-- **Emitting loses no output but those that another one replaces.** Where an emit is not skipped
and has nothing to say, it names one path for each file that has an output and is no declaration
file, in the order of the program. Each path reads as the last output that leads to its place, so
all outputs read back exactly when each of them has the text of the last one at its place. -/
theorem emit_keeps (d : Disk) (p : Project) (program : Program) (forbidden : Bool)
    (hrun : (p.emit d program forbidden).1.skipped = false)
    (hquiet : (p.emit d program forbidden).1.diagnostics = []) :
    (p.emit d program forbidden).1.written.map some =
      (program.files.filter fun f => !f.isDeclaration && f.output.isSome).map p.outputPath ∧
    (∀ o ∈ p.outputs program.files, ∃ text,
      (p.emit d program forbidden).2.lastText? (p.outputs program.files) o.1 = some text ∧
        (p.emit d program forbidden).2.readText o.1 = .ok text) ∧
    (p.KeepsOutputs (p.emit d program forbidden).2 program ↔ ∀ o ∈ p.outputs program.files,
      (p.emit d program forbidden).2.lastText? (p.outputs program.files) o.1 = some o.2) := by
  have hemit : p.emit d program forbidden = p.emitFiles d program.files := by
    unfold emit at hrun ⊢
    split at hrun
    · cases hrun
    · rename_i hback
      rw [if_neg hback]
  rw [hemit] at hquiet ⊢
  have hall := emitFiles_diagnostics_eq_nil.1 hquiet
  have hleft : ∀ o ∈ p.outputs program.files, ∃ text,
      (p.emitFiles d program.files).2.lastText? (p.outputs program.files) o.1 = some text ∧
        (p.emitFiles d program.files).2.readText o.1 = .ok text :=
    fun o ho => Disk.readText_saveAll (by rw [emitFiles_eq]) hall ho
  refine ⟨?_, hleft, keepsOutputs_iff.trans (forall₂_congr fun o ho => ?_)⟩
  · rw [emitFiles_eq]
    dsimp only
    rw [filterMap_saved? hall, map_saveAll, map_outputs]
  · obtain ⟨text, hlast, hread⟩ := hleft o ho
    simp [hlast, hread]

/-! ## Namesakes -/

def sourceFile (name output : String) : SourceFile :=
  ⟨name, false, "", [], some output, []⟩

def rootProject : Project := .ofRoots (.ofString "/") []

def strangers : Program := ⟨[sourceFile "a.ts" "a", sourceFile "b.tsx" "b"], []⟩

theorem emit_keeps_strangers :
    (rootProject.emit .empty strangers false).1.skipped = false ∧
    (rootProject.emit .empty strangers false).1.diagnostics = [] ∧
    rootProject.KeepsOutputs (rootProject.emit .empty strangers false).2 strangers := by
  have hrun : (rootProject.emit .empty strangers false).1.skipped = false := by decide
  have hquiet : (rootProject.emit .empty strangers false).1.diagnostics = [] := by decide
  refine ⟨hrun, hquiet, (emit_keeps _ _ _ _ hrun hquiet).2.2.2 ?_⟩
  decide

/-- Two sources with the name of one output. -/
def namesakes : Program := ⟨[sourceFile "a.ts" "a", sourceFile "a.tsx" "b"], []⟩

/-- **An output may be lost without a word**: one that another source has the path of. -/
theorem not_keepsOutputs_namesakes :
    (rootProject.emit .empty namesakes false).1.skipped = false ∧
    (rootProject.emit .empty namesakes false).1.diagnostics = [] ∧
    ¬rootProject.KeepsOutputs (rootProject.emit .empty namesakes false).2 namesakes := by
  refine ⟨by decide, by decide, ?_⟩
  rw [keepsOutputs_iff]
  decide

end Project

end Conformance
