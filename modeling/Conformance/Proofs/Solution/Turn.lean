import Conformance.Proofs.Disk.Saving
import Conformance.Solution.Build
/-!
# The turns of a build

A build takes its projects one after the other.  A `Turn` is what a project finds when it is taken:
what became of those before it, the disk, and what the hook has gathered.  What a turn can come to
is said once, by `Turn.Ends`; that the disk only grows, where the files on it come from, and which
projects are handed to the hook follow from it turn by turn.
-/
namespace Conformance

open Disk (Grows Saves Wrote)

structure Turn (σ : Type) where
  done : List ProjectOutcome
  disk : Disk
  gathered : σ
  project : Project

structure Call where
  disk : Disk
  project : Project
  program : Program

namespace Turn

variable {σ ε : Type}

def isBlocked (t : Turn σ) : Bool := Solution.isBlocked t.disk t.done t.project

def signature (t : Turn σ) : String := t.project.signature t.disk (t.project.roots t.disk)

/-- Does the record in reach at this turn say that there is nothing to do? -/
def isUpToDate (t : Turn σ) : Bool := t.project.isUpToDate t.disk t.signature

def program (t : Turn σ) : Program :=
  Project.loadProgram t.disk t.project.dir (t.project.roots t.disk)

def loads (t : Turn σ) : Bool := decide (t.program.hasErrors = .ok false)

def emitted (t : Turn σ) : Emitted × Disk := t.project.emit t.disk t.program false

def passes (t : Turn σ) : Bool :=
  !t.isBlocked && t.loads && t.emitted.1.diagnostics.isEmpty

def isChecked (t : Turn σ) : Bool := !t.isUpToDate && t.passes

def call (t : Turn σ) : Call := ⟨t.emitted.2, t.project, t.program⟩

def outputs (t : Turn σ) : List Path :=
  if t.isBlocked || t.isUpToDate || !t.loads then [] else t.emitted.1.written

def result (hook : Hook σ ε) (t : Turn σ) : Except (BuildError ε) ProjectOutcome × Disk × σ :=
  if t.isBlocked then (.ok (t.project.outcome .skipped []), t.disk, t.gathered)
  else match t.project.build hook t.disk t.gathered with
    | (.error e, d, gathered) => (.error e, d, gathered)
    | (.ok (status, ds), d, gathered) => (.ok (t.project.outcome status ds), d, gathered)

/-- What became of the project, if the build went on. -/
def status? (hook : Hook σ ε) (t : Turn σ) : Option ProjectStatus :=
  (t.result hook).1.toOption.map (·.status)

/-! ## What a turn comes to -/

/-- What a turn can come to, case by case. -/
inductive Ends (hook : Hook σ ε) (t : Turn σ) :
    Except (BuildError ε) ProjectOutcome × Disk × σ → Prop
  | skipped : t.isBlocked = true →
      Ends hook t (.ok (t.project.outcome .skipped []), t.disk, t.gathered)
  | upToDate : t.isBlocked = false → t.isUpToDate = true →
      Ends hook t (.ok (t.project.outcome .upToDate []), t.disk, t.gathered)
  | overflowing {e : Text.Overflow} : t.isBlocked = false → t.isUpToDate = false →
      t.program.preEmit = .error e → Ends hook t (.error (.overflow e), t.disk, t.gathered)
  | faulty {known : List Diagnostic} : t.isBlocked = false → t.isUpToDate = false →
      t.program.preEmit = .ok known → Diagnostic.anyError known = true →
      Ends hook t (.ok (t.project.outcome .failed known), t.disk, t.gathered)
  | unwritten : t.isBlocked = false → t.isUpToDate = false → t.loads = true →
      t.emitted.1.diagnostics.isEmpty = false →
      Ends hook t (.ok (t.project.outcome .failed t.emitted.1.diagnostics), t.emitted.2,
        t.gathered)
  | refused {e : ε} {gathered : σ} : t.isChecked = true →
      hook t.emitted.2 t.project t.program t.gathered = (.error e, gathered) →
      Ends hook t (.error (.hook e), t.emitted.2, gathered)
  | unrecorded {e : Disk.SaveError} {d : Disk} {gathered : σ} : t.isChecked = true →
      hook t.emitted.2 t.project t.program t.gathered = (.ok (), gathered) →
      BuildInfo.write t.emitted.2 t.project (.of t.project t.signature t.emitted.1.written) =
        (.error e, d) →
      Ends hook t (.error (.record e), d, gathered)
  | built {d : Disk} {gathered : σ} : t.isChecked = true →
      hook t.emitted.2 t.project t.program t.gathered = (.ok (), gathered) →
      BuildInfo.write t.emitted.2 t.project (.of t.project t.signature t.emitted.1.written) =
        (.ok (), d) →
      Ends hook t (.ok (t.project.outcome .built []), d, gathered)

theorem loads_iff {t : Turn σ} : t.loads = true ↔ ∃ known, t.program.preEmit = .ok known ∧
    Diagnostic.anyError known = false := by
  rw [loads, decide_eq_true_iff, Program.hasErrors]
  cases t.program.preEmit <;> simp [bind, Except.bind, pure, Except.pure]

theorem loads_of_overflow {t : Turn σ} {e : Text.Overflow} (h : t.program.preEmit = .error e) :
    t.loads = false := by
  rw [← Bool.not_eq_true, loads_iff]
  simp [h]

theorem loads_of_anyError {t : Turn σ} {known : List Diagnostic}
    (h : t.program.preEmit = .ok known) (herror : Diagnostic.anyError known = true) :
    t.loads = false := by
  rw [← Bool.not_eq_true, loads_iff]
  simp [h, herror]

theorem isChecked_iff {t : Turn σ} : t.isChecked = true ↔ t.isUpToDate = false ∧
    t.isBlocked = false ∧ t.loads = true ∧
      t.emitted.1.diagnostics.isEmpty = true := by
  simp only [isChecked, passes, Bool.and_eq_true, Bool.not_eq_true', and_assoc]

theorem build_eq (hook : Hook σ ε) (t : Turn σ) :
    t.project.build hook t.disk t.gathered =
      if t.isUpToDate then (.ok (.upToDate, []), t.disk, t.gathered)
      else match t.program.preEmit with
      | .error e => (.error (.overflow e), t.disk, t.gathered)
      | .ok known =>
        if Diagnostic.anyError known then (.ok (.failed, known), t.disk, t.gathered)
        else if t.emitted.1.diagnostics.isEmpty then
          match hook t.emitted.2 t.project t.program t.gathered with
          | (.error e, gathered) => (.error (.hook e), t.emitted.2, gathered)
          | (.ok (), gathered) =>
            match BuildInfo.write t.emitted.2 t.project
                (.of t.project t.signature t.emitted.1.written) with
            | (.error e, d) => (.error (.record e), d, gathered)
            | (.ok (), d) => (.ok (.built, []), d, gathered)
        else (.ok (.failed, t.emitted.1.diagnostics), t.emitted.2, t.gathered) := rfl

/-- **Every turn comes to one of these.** -/
theorem result_ends (hook : Hook σ ε) (t : Turn σ) : t.Ends hook (t.result hook) := by
  unfold result
  cases hblocked : t.isBlocked with
  | true => exact .skipped hblocked
  | false =>
    rw [build_eq]
    cases hupToDate : t.isUpToDate with
    | true => exact .upToDate hblocked hupToDate
    | false =>
      cases hknown : t.program.preEmit with
      | error e => exact .overflowing hblocked hupToDate hknown
      | ok known =>
        cases herror : Diagnostic.anyError known with
        | true =>
          simp only [herror]
          exact .faulty hblocked hupToDate hknown herror
        | false =>
          have hload := loads_iff.2 ⟨known, hknown, herror⟩
          simp only [herror]
          cases hemit : t.emitted.1.diagnostics.isEmpty with
          | false => exact .unwritten hblocked hupToDate hload hemit
          | true =>
            have hchecked := isChecked_iff.2 ⟨hupToDate, hblocked, hload, hemit⟩
            rcases hhook : hook t.emitted.2 t.project t.program t.gathered with ⟨r, gathered⟩
            cases r with
            | error e => exact .refused hchecked hhook
            | ok u =>
              rcases hwrite : BuildInfo.write t.emitted.2 t.project
                (.of t.project t.signature t.emitted.1.written) with ⟨r, d⟩
              cases r with
              | error e => exact .unrecorded hchecked hhook hwrite
              | ok u' => exact .built hchecked hhook hwrite

theorem Ends.result_eq {hook : Hook σ ε} {t : Turn σ}
    {r : Except (BuildError ε) ProjectOutcome × Disk × σ} (h : t.Ends hook r) :
    t.result hook = r := by
  unfold result
  rw [build_eq]
  cases h with
  | skipped hblocked => simp [hblocked]
  | upToDate hblocked hupToDate => simp [hblocked, hupToDate]
  | overflowing hblocked hupToDate hknown => simp [hblocked, hupToDate, hknown]
  | faulty hblocked hupToDate hknown herror => simp [hblocked, hupToDate, hknown, herror]
  | unwritten hblocked hupToDate hload hemit =>
    obtain ⟨known, hknown, herror⟩ := loads_iff.1 hload
    simp [hblocked, hupToDate, hknown, herror, hemit]
  | refused hchecked hhook =>
    obtain ⟨hupToDate, hblocked, hload, hemit⟩ := isChecked_iff.1 hchecked
    obtain ⟨known, hknown, herror⟩ := loads_iff.1 hload
    simp [hblocked, hupToDate, hknown, herror, hemit, hhook]
  | unrecorded hchecked hhook hwrite =>
    obtain ⟨hupToDate, hblocked, hload, hemit⟩ := isChecked_iff.1 hchecked
    obtain ⟨known, hknown, herror⟩ := loads_iff.1 hload
    simp [hblocked, hupToDate, hknown, herror, hemit, hhook, hwrite]
  | built hchecked hhook hwrite =>
    obtain ⟨hupToDate, hblocked, hload, hemit⟩ := isChecked_iff.1 hchecked
    obtain ⟨known, hknown, herror⟩ := loads_iff.1 hload
    simp [hblocked, hupToDate, hknown, herror, hemit, hhook, hwrite]

theorem status?_eq_upToDate (hook : Hook σ ε) (t : Turn σ) :
    t.status? hook = some .upToDate ↔ t.isBlocked = false ∧ t.isUpToDate = true := by
  have hends := t.result_ends hook
  unfold status?
  generalize t.result hook = r at hends
  cases hends with
  | skipped hblocked => simp [Except.toOption, Project.outcome, hblocked]
  | upToDate hblocked hupToDate => simp [Except.toOption, Project.outcome, hblocked, hupToDate]
  | overflowing _ hupToDate _ => simp [Except.toOption, hupToDate]
  | faulty _ hupToDate _ _ => simp [Except.toOption, Project.outcome, hupToDate]
  | unwritten _ hupToDate _ _ => simp [Except.toOption, Project.outcome, hupToDate]
  | refused hchecked _ =>
    have hupToDate := (isChecked_iff.1 hchecked).1
    simp [Except.toOption, hupToDate]
  | unrecorded hchecked _ _ =>
    have hupToDate := (isChecked_iff.1 hchecked).1
    simp [Except.toOption, hupToDate]
  | built hchecked _ _ =>
    have hupToDate := (isChecked_iff.1 hchecked).1
    simp [Except.toOption, Project.outcome, hupToDate]

/-! ## What a turn writes -/

theorem saves_emitFiles (p : Project) : ∀ (fs : List SourceFile) (d : Disk),
    Saves (p.emitFiles d fs).1.written d (p.emitFiles d fs).2
  | [], d => .refl
  | f :: fs, d => by
    rw [Project.emitFiles]
    split
    · rename_i path text _ _
      rcases d.save_cases path text with ⟨e, d', h, hedits⟩ | ⟨d', place, h, hedits, -⟩
      · rw [h]
        exact (hedits.saves (List.nil_subset _)).trans (saves_emitFiles p fs d')
      · rw [h]
        have hrest := (saves_emitFiles p fs d').saves (List.subset_cons_self path _)
        exact (hedits.saves (List.cons_subset_cons path (List.nil_subset _))).trans hrest
    · exact saves_emitFiles p fs d

theorem resolve_emitFiles (p : Project) : ∀ (fs : List SourceFile) (d : Disk),
    ∀ w ∈ (p.emitFiles d fs).1.written, (∃ f ∈ fs, p.outputPath f = some w) ∧
      ∃ place bytes, (p.emitFiles d fs).2.resolve w = .ok (place, .file bytes)
  | [], _, _, hw => by cases hw
  | f :: fs, d, w, hw => by
    have hlater : ∀ {d' : Disk}, w ∈ (p.emitFiles d' fs).1.written →
        (∃ f' ∈ f :: fs, p.outputPath f' = some w) ∧
          ∃ place bytes, (p.emitFiles d' fs).2.resolve w = .ok (place, .file bytes) := by
      intro d' hw
      obtain ⟨⟨f', hf', hpath⟩, hplace⟩ := resolve_emitFiles p fs d' w hw
      exact ⟨⟨f', List.mem_cons_of_mem f hf', hpath⟩, hplace⟩
    rw [Project.emitFiles] at hw ⊢
    split at hw
    · rename_i path text hpath htext
      rcases d.save_cases path text with ⟨e, d', h, -⟩ | ⟨d', place, h, -, hres⟩
      · rw [h] at hw ⊢
        exact hlater hw
      · rw [h] at hw ⊢
        rcases List.mem_cons.1 hw with rfl | hw
        · obtain ⟨bytes, hres'⟩ := (saves_emitFiles p fs d').wrote.grows.resolve_file hres
          exact ⟨⟨f, List.mem_cons_self, hpath⟩, place, bytes, hres'⟩
        · exact hlater hw
    · exact hlater hw

theorem saves_emitted (t : Turn σ) : Saves t.emitted.1.written t.disk t.emitted.2 := by
  unfold emitted Project.emit
  split
  · exact .refl
  · exact saves_emitFiles t.project _ t.disk

theorem outputs_of_isChecked {t : Turn σ} (h : t.isChecked = true) :
    t.outputs = t.emitted.1.written := by
  obtain ⟨hupToDate, hblocked, hload, -⟩ := isChecked_iff.1 h
  simp [outputs, hupToDate, hblocked, hload]

def paths (t : Turn σ) : List Path := t.outputs ++ [t.project.buildInfoPath]

/-- The paths at which a turn leaves a file: those of the outputs, and that of the record if there
is a new one. -/
def saved (t : Turn σ) : List Path :=
  t.outputs ++ if t.isChecked then [t.project.buildInfoPath] else []

theorem saved_subset_paths (t : Turn σ) : t.saved ⊆ t.paths := by
  refine List.append_subset.2 ⟨List.subset_append_left _ _, ?_⟩
  split
  · exact List.subset_append_right _ _
  · exact List.nil_subset _

theorem saved_of_isChecked {t : Turn σ} (h : t.isChecked = true) :
    t.saved = t.emitted.1.written ++ [t.project.buildInfoPath] := by
  rw [saved, outputs_of_isChecked h, if_pos h]

theorem saved_of_isUpToDate {t : Turn σ} (h : t.isUpToDate = true) : t.saved = [] := by
  simp [saved, outputs, isChecked, h]

/-- **A turn saves outputs and its own record, nothing else.** -/
theorem saves_result (hook : Hook σ ε) (t : Turn σ) :
    Saves t.saved t.disk (t.result hook).2.1 := by
  have hends := t.result_ends hook
  generalize t.result hook = r at hends
  cases hends with
  | skipped _ => exact .refl
  | upToDate _ _ => exact .refl
  | overflowing _ _ _ => exact .refl
  | faulty _ _ _ _ => exact .refl
  | unwritten hblocked hupToDate hload _ =>
    have houtputs : t.outputs = t.emitted.1.written := by
      simp [outputs, hblocked, hupToDate, hload]
    rw [saved, houtputs]
    exact t.saves_emitted.saves (List.subset_append_left _ _)
  | refused hchecked _ =>
    rw [saved_of_isChecked hchecked]
    exact t.saves_emitted.saves (List.subset_append_left _ _)
  | unrecorded hchecked _ hwrite =>
    rw [saved_of_isChecked hchecked]
    have hemitted := t.saves_emitted.saves
      (List.subset_append_left t.emitted.1.written [t.project.buildInfoPath])
    rcases t.emitted.2.save_cases t.project.buildInfoPath _ with
      ⟨e, d', h, hedits⟩ | ⟨d', place, h, -⟩
    · cases h.symm.trans hwrite
      exact hemitted.trans (hedits.saves (List.nil_subset _))
    · cases h.symm.trans hwrite
  | built hchecked _ hwrite =>
    rw [saved_of_isChecked hchecked]
    have hemitted := t.saves_emitted.saves
      (List.subset_append_left t.emitted.1.written [t.project.buildInfoPath])
    rcases t.emitted.2.save_cases t.project.buildInfoPath _ with
      ⟨e, d', h, -⟩ | ⟨d', place, h, hedits, -⟩
    · cases h.symm.trans hwrite
    · cases h.symm.trans hwrite
      exact hemitted.trans (hedits.saves (List.subset_append_right _ _))

end Turn

namespace Solution

variable {σ ε : Type}

/-! ## Runs -/

/-- The turns of a build, up to the one that ends it. -/
def turns (hook : Hook σ ε) : List ProjectOutcome → Disk → σ → List Project → List (Turn σ)
  | _, _, _, [] => []
  | done, d, gathered, p :: ps => ⟨done, d, gathered, p⟩ ::
    match Turn.result hook ⟨done, d, gathered, p⟩ with
    | (.error _, _, _) => []
    | (.ok outcome, d, gathered) => turns hook (done ++ [outcome]) d gathered ps

theorem buildAll_cons (hook : Hook σ ε) (done : List ProjectOutcome) (d : Disk) (gathered : σ)
    (p : Project) (ps : List Project) : buildAll hook done d gathered (p :: ps) =
      match Turn.result hook ⟨done, d, gathered, p⟩ with
      | (.error e, d, gathered) => (.error e, d, gathered)
      | (.ok outcome, d, gathered) => buildAll hook (done ++ [outcome]) d gathered ps := by
  rw [buildAll]
  unfold Turn.result Turn.isBlocked
  dsimp only
  split
  · rfl
  · rcases p.build hook d gathered with ⟨r, d', gathered'⟩
    cases r <;> rfl

theorem turns_project (hook : Hook σ ε) : ∀ (ps : List Project) (done : List ProjectOutcome)
    (d : Disk) (gathered : σ), (turns hook done d gathered ps).map (·.project) <+: ps
  | [], _, _, _ => List.prefix_refl []
  | p :: ps, done, d, gathered => by
    rw [turns, List.map_cons]
    refine List.cons_prefix_cons.2 ⟨rfl, ?_⟩
    split
    · exact List.nil_prefix
    · exact turns_project hook ps _ _ _

theorem saves_buildAll (hook : Hook σ ε) : ∀ (ps : List Project) (done : List ProjectOutcome)
    (d : Disk) (gathered : σ), Saves ((turns hook done d gathered ps).flatMap Turn.saved) d
      (buildAll hook done d gathered ps).2.1
  | [], _, _, _ => .refl
  | p :: ps, done, d, gathered => by
    have hfirst := Turn.saves_result hook ⟨done, d, gathered, p⟩
    rw [buildAll_cons, turns, List.flatMap_cons]
    split
    · rename_i hresult
      rw [hresult] at hfirst
      exact hfirst.saves (List.subset_append_left _ _)
    · rename_i hresult
      rw [hresult] at hfirst
      exact (hfirst.saves (List.subset_append_left _ _)).trans
        ((saves_buildAll hook ps _ _ _).saves (List.subset_append_right _ _))

/-- **The disk of a turn is what the turns before have made of the disk**, and the turns after it go
on from what the turn comes to. -/
theorem saves_turns (hook : Hook σ ε) : ∀ (ps : List Project) (done : List ProjectOutcome)
    (d : Disk) (gathered : σ) (before : List (Turn σ)) (t : Turn σ) (after : List (Turn σ)),
    turns hook done d gathered ps = before ++ t :: after →
      Saves (before.flatMap Turn.saved) d t.disk ∧
        Saves (after.flatMap Turn.saved) (t.result hook).2.1
          (buildAll hook done d gathered ps).2.1
  | [], _, _, _, before, t, after, h => by cases before <;> cases h
  | p :: ps, done, d, gathered, before, t, after, h => by
    have hfirst := Turn.saves_result hook ⟨done, d, gathered, p⟩
    rw [buildAll_cons]
    rw [turns] at h
    cases before with
    | nil =>
      obtain ⟨rfl, hrest⟩ := List.cons.inj h
      refine ⟨.refl, ?_⟩
      split at hrest
      · rename_i hresult
        rw [hresult, ← hrest]
      · rename_i outcome d' gathered' hresult
        rw [hresult, ← hrest]
        exact saves_buildAll hook ps _ d' gathered'
    | cons first before =>
      obtain ⟨rfl, hrest⟩ := List.cons.inj h
      split at hrest
      · cases before <;> cases hrest
      · rename_i outcome d' gathered' hresult
        obtain ⟨hbefore, hafter⟩ := saves_turns hook ps _ d' gathered' before t after hrest
        rw [hresult] at hfirst
        refine ⟨?_, hafter⟩
        rw [List.flatMap_cons]
        exact (hfirst.saves (List.subset_append_left _ _)).trans
          (hbefore.saves (List.subset_append_right _ _))

/-- **Where the files at a turn come from**: from before the build, or from the turns before. And
what is there at a turn stays in its place. -/
theorem wrote_turns (hook : Hook σ ε) (ps : List Project) (done : List ProjectOutcome) (d : Disk)
    (gathered : σ) (before : List (Turn σ)) (t : Turn σ) (after : List (Turn σ))
    (h : turns hook done d gathered ps = before ++ t :: after) :
    Wrote (before.flatMap Turn.paths) d t.disk ∧
      Grows t.disk (buildAll hook done d gathered ps).2.1 := by
  obtain ⟨hbefore, hafter⟩ := saves_turns hook ps done d gathered before t after h
  refine ⟨(hbefore.saves ?_).wrote, (t.saves_result hook).wrote.grows.trans hafter.wrote.grows⟩
  intro path hpath
  obtain ⟨t', ht', hsaved⟩ := List.mem_flatMap.1 hpath
  exact List.mem_flatMap.2 ⟨t', ht', t'.saved_subset_paths hsaved⟩

theorem buildAll_ok (hook : Hook σ ε) : ∀ {ps : List Project} {done outcomes : List ProjectOutcome}
    {d d' : Disk} {gathered gathered' : σ},
    buildAll hook done d gathered ps = (.ok outcomes, d', gathered') →
      (turns hook done d gathered ps).map (·.project) = ps ∧
      outcomes.map some = done.map some ++
        (turns hook done d gathered ps).map fun t => (t.result hook).1.toOption
  | [], done, outcomes, d, d', gathered, gathered', h => by
    cases h
    exact ⟨rfl, by simp [turns]⟩
  | p :: ps, done, outcomes, d, d', gathered, gathered', h => by
    rw [buildAll_cons] at h
    rw [turns]
    split at h
    · cases h
    · rename_i outcome d'' gathered'' hresult
      obtain ⟨hprojects, houtcomes⟩ := buildAll_ok hook h
      refine ⟨by rw [List.map_cons, hprojects], ?_⟩
      rw [houtcomes, List.map_cons, hresult]
      simp [Except.toOption]

end Solution

/-! ## Calls of the hook -/

namespace Turn

variable {σ ε : Type}

def withLog (t : Turn σ) (log : List Call) : Turn (σ × List Call) :=
  ⟨t.done, t.disk, (t.gathered, log), t.project⟩

end Turn

/-- A hook that keeps a log of its calls, beside what it gathers. -/
def Hook.recording {σ ε : Type} (hook : Hook σ ε) : Hook (σ × List Call) ε :=
  fun d p program gathered => match hook d p program gathered.1 with
    | (r, state) => (r, state, gathered.2 ++ [⟨d, p, program⟩])

variable {σ ε : Type}

theorem Hook.recording_eq {hook : Hook σ ε} {d : Disk} {p : Project} {program : Program}
    {gathered gathered' : σ} {r : Except ε Unit}
    (h : hook d p program gathered = (r, gathered')) (log : List Call) :
    Hook.recording hook d p program (gathered, log) =
      (r, gathered', log ++ [⟨d, p, program⟩]) := by
  simp [recording, h]

/-- **Keeping a log changes nothing else**, and a turn is logged if its project is checked. -/
theorem Turn.result_recording (hook : Hook σ ε) (t : Turn σ) (log : List Call) :
    (t.withLog log).result (Hook.recording hook) =
      ((t.result hook).1, (t.result hook).2.1, (t.result hook).2.2,
        if t.isChecked then log ++ [t.call] else log) := by
  have hends := t.result_ends hook
  generalize t.result hook = r at hends ⊢
  refine Ends.result_eq ?_
  cases hends with
  | skipped hblocked =>
    rw [if_neg (by simp [isChecked, passes, hblocked])]
    exact .skipped hblocked
  | upToDate hblocked hupToDate =>
    rw [if_neg (by simp [isChecked, hupToDate])]
    exact .upToDate hblocked hupToDate
  | overflowing hblocked hupToDate hknown =>
    rw [if_neg (by simp [isChecked, passes, loads_of_overflow hknown])]
    exact .overflowing hblocked hupToDate hknown
  | faulty hblocked hupToDate hknown herror =>
    rw [if_neg (by simp [isChecked, passes, loads_of_anyError hknown herror])]
    exact .faulty hblocked hupToDate hknown herror
  | unwritten hblocked hupToDate hload hemit =>
    rw [if_neg (by simp [isChecked, passes, hemit])]
    exact .unwritten hblocked hupToDate hload hemit
  | refused hchecked hhook =>
    rw [if_pos hchecked]
    exact .refused hchecked (Hook.recording_eq hhook log)
  | unrecorded hchecked hhook hwrite =>
    rw [if_pos hchecked]
    exact .unrecorded hchecked (Hook.recording_eq hhook log) hwrite
  | built hchecked hhook hwrite =>
    rw [if_pos hchecked]
    exact .built hchecked (Hook.recording_eq hhook log) hwrite

theorem Solution.buildAll_recording (hook : Hook σ ε) : ∀ (ps : List Project)
    (done : List ProjectOutcome) (d : Disk) (gathered : σ) (log : List Call),
    buildAll hook.recording done d (gathered, log) ps =
      ((buildAll hook done d gathered ps).1, (buildAll hook done d gathered ps).2.1,
        (buildAll hook done d gathered ps).2.2,
        log ++ ((turns hook done d gathered ps).filter (·.isChecked)).map (·.call))
  | [], done, d, gathered, log => by simp [buildAll, turns]
  | p :: ps, done, d, gathered, log => by
    have hresult := Turn.result_recording hook ⟨done, d, gathered, p⟩ log
    have hlog : ∀ rest : List (Turn σ), log ++ ((⟨done, d, gathered, p⟩ :: rest).filter
        (·.isChecked)).map (·.call) = (if Turn.isChecked ⟨done, d, gathered, p⟩ then
          log ++ [Turn.call ⟨done, d, gathered, p⟩] else log) ++
            (rest.filter (·.isChecked)).map (·.call) := by
      intro rest
      rw [List.filter_cons]
      split <;> simp
    rw [buildAll_cons, buildAll_cons, turns, hlog]
    unfold Turn.withLog at hresult
    dsimp only at hresult
    rw [hresult]
    rcases Turn.result hook ⟨done, d, gathered, p⟩ with ⟨r, d', gathered'⟩
    cases r with
    | error e => simp
    | ok outcome => exact buildAll_recording hook ps _ d' gathered' _

/-! ## Two hooks -/

section

variable {τ : Type} {R : σ → τ → Prop} {hook : Hook σ ε} {hook' : Hook τ ε}

/-- Two hooks say the same about the program of a project, and what they gather stays in step. -/
def Hook.Matches (R : σ → τ → Prop) (hook : Hook σ ε) (hook' : Hook τ ε) (p : Project) : Prop :=
  ∀ (loaded emitted : Disk) (s : σ) (s' : τ), R s s' →
    ∃ r t t', hook emitted p (Project.loadProgram loaded p.dir (p.roots loaded)) s = (r, t) ∧
      hook' emitted p (Project.loadProgram loaded p.dir (p.roots loaded)) s' = (r, t') ∧ R t t'

theorem Turn.result_matches {p : Project} (hmatch : Hook.Matches R hook hook' p)
    (done : List ProjectOutcome) (d : Disk) {s : σ} {s' : τ} (h : R s s') :
    ∃ r d' t t', Turn.result hook ⟨done, d, s, p⟩ = (r, d', t) ∧
      Turn.result hook' ⟨done, d, s', p⟩ = (r, d', t') ∧ R t t' := by
  obtain ⟨r, t, t', hhook, hhook', ht⟩ :=
    hmatch d (Turn.emitted ⟨done, d, s, p⟩).2 s s' h
  have hends := Turn.result_ends hook ⟨done, d, s, p⟩
  generalize hresult : Turn.result hook ⟨done, d, s, p⟩ = result at hends
  cases hends with
  | skipped hblocked => exact ⟨_, _, s, s', rfl, Ends.result_eq (.skipped hblocked), h⟩
  | upToDate hblocked hupToDate =>
    exact ⟨_, _, s, s', rfl, Ends.result_eq (.upToDate hblocked hupToDate), h⟩
  | overflowing hblocked hupToDate hknown =>
    exact ⟨_, _, s, s', rfl, Ends.result_eq (.overflowing hblocked hupToDate hknown), h⟩
  | faulty hblocked hupToDate hknown herror =>
    exact ⟨_, _, s, s', rfl, Ends.result_eq (.faulty hblocked hupToDate hknown herror), h⟩
  | unwritten hblocked hupToDate hload hemit =>
    exact ⟨_, _, s, s', rfl, Ends.result_eq (.unwritten hblocked hupToDate hload hemit), h⟩
  | refused hchecked he =>
    cases hhook.symm.trans he
    exact ⟨_, _, t, t', rfl, Ends.result_eq (.refused hchecked hhook'), ht⟩
  | unrecorded hchecked hok hwrite =>
    cases hhook.symm.trans hok
    exact ⟨_, _, t, t', rfl, Ends.result_eq (.unrecorded hchecked hhook' hwrite), ht⟩
  | built hchecked hok hwrite =>
    cases hhook.symm.trans hok
    exact ⟨_, _, t, t', rfl, Ends.result_eq (.built hchecked hhook' hwrite), ht⟩

/-- **A build comes to the same with hooks that match on all its projects.** -/
theorem Solution.buildAll_matches : ∀ {ps : List Project}, (∀ p ∈ ps, Hook.Matches R hook hook' p) →
    ∀ (done : List ProjectOutcome) (d : Disk) {s : σ} {s' : τ}, R s s' →
    ∃ r d' t t', buildAll hook done d s ps = (r, d', t) ∧
      buildAll hook' done d s' ps = (r, d', t') ∧ R t t'
  | [], _, done, d, s, s', h => ⟨.ok done, d, s, s', rfl, rfl, h⟩
  | p :: ps, hmatch, done, d, s, s', h => by
    obtain ⟨r, d', t, t', hresult, hresult', ht⟩ :=
      Turn.result_matches (hmatch p List.mem_cons_self) done d h
    rw [buildAll_cons, buildAll_cons, hresult, hresult']
    cases r with
    | error e => exact ⟨_, _, _, _, rfl, rfl, ht⟩
    | ok outcome =>
      exact buildAll_matches (fun q hq => hmatch q (List.mem_cons_of_mem p hq)) _ d' ht

end

end Conformance
