import Conformance.Proofs.Run.ExitCode
import Conformance.Proofs.Run.Rebasing
import Conformance.Proofs.Run.Refusing
/-!
# The two ways to run a project

A project that needs no other can be run directly or as a solution of its own.  The one checks it
and then emits, the other cleans it, emits and then checks.  The check reads the disk at one point,
the exemption file; so both find the same, unless the emit or the cleaning had a part in what the
path of that file leads to.

An output may be the exemption file, which is no surprise.  But a path that goes into the directory
of the outputs and out of it again leads nowhere before the first output has made the directory, and
to its file afterwards (`modes_differ`).
-/
namespace Conformance

open Solution (keyOf projects)

/-! ## The check on two disks -/

theorem Disk.readText_of_resolve {d d' : Disk} {p : Path} (h : d'.resolve p = d.resolve p) :
    d'.readText p = d.readText p := by
  unfold readText Disk.read
  rw [h]

namespace Project

def emitted (d : Disk) (p : Project) : Emitted × Disk := p.emit d (p.program d) false

/-- No output is the exemption file. -/
def OutputsApart (d : Disk) (p : Project) : Prop :=
  ∀ path ∈ p.exemptionConfig.toList, ∀ w ∈ (p.emitted d).1.written,
    (p.emitted d).2.meet path w = false

/-- If the path of the exemption file leads nowhere, it leads nowhere for the same reason after the
emit. -/
def ExemptionsStay (d : Disk) (p : Project) : Prop :=
  ∀ path ∈ p.exemptionConfig.toList, d.holds path = false →
    (p.emitted d).2.resolve path = d.resolve path

instance (d : Disk) (p : Project) : Decidable (p.OutputsApart d) :=
  inferInstanceAs (Decidable (∀ path ∈ _, ∀ w ∈ _, _))

instance (d : Disk) (p : Project) : Decidable (p.ExemptionsStay d) :=
  inferInstanceAs (Decidable (∀ path ∈ _, _ → _))

theorem resolve_emitted {d : Disk} {p : Project} (hapart : p.OutputsApart d)
    (hstay : p.ExemptionsStay d) {path : Path} (hpath : p.exemptionConfig = some path) :
    (p.emitted d).2.resolve path = d.resolve path := by
  have hmem : path ∈ p.exemptionConfig.toList := by simp [hpath]
  have hwrote : Disk.Wrote (p.emitted d).1.written d (p.emitted d).2 :=
    (Turn.saves_emitted ⟨[], d, (), p⟩).wrote
  cases hres : d.resolve path with
  | ok spot => exact hwrote.resolve hres (hapart path hmem)
  | error e => rw [hstay path hmem (Disk.holds_eq_false hres), hres]

/-- **The check finds the same before the emit and after it.** -/
theorem check_emitted {d : Disk} {p : Project} (hapart : p.OutputsApart d)
    (hstay : p.ExemptionsStay d) (program : Program) :
    p.check (p.emitted d).2 program = p.check d program := by
  have hexemptions : p.exemptions (p.emitted d).2 = p.exemptions d := by
    unfold exemptions
    cases hpath : p.exemptionConfig with
    | none => rfl
    | some path =>
      dsimp only
      rw [Disk.readText_of_resolve (resolve_emitted hapart hstay hpath)]
  unfold check
  rw [hexemptions]

theorem emit_diagnostics_of_nil {d : Disk} {p : Project} {program : Program}
    (h : (p.emit d program false).1.diagnostics = []) (forbidden : Bool) :
    (p.emit d program forbidden).1.diagnostics = [] := by
  cases forbidden with
  | false => exact h
  | true => simp [emit]

/-! ## A solution of one project -/

theorem removeFiles_eq_self : ∀ {ps : List Path} {d d' : Disk},
    removeFiles d ps = (.ok [], d') → d' = d
  | [], _, _, h => by
    cases h
    rfl
  | p :: ps, d, d', h => by
    rw [removeFiles] at h
    split at h
    · rename_i mid hmid
      rcases Disk.removeFile_cases d p with ⟨e, he, -⟩ | ⟨place, bytes, -, he⟩
      · cases he.symm.trans hmid
        exact removeFiles_eq_self h
      · cases he.symm.trans hmid
    · cases h
    · split at h <;> cases h

end Project

namespace Solution

theorem exists_depthLimit (d : Disk) : ∃ depth, depthLimit d = depth + 1 := by
  have hlt := lt_depthLimit d []
  rw [List.length_nil] at hlt
  exact Nat.exists_eq_succ_of_ne_zero (by omega)

theorem projects_of_load_error {d : Disk} {key : Path} {e : ConfigError}
    (h : Project.load d key = .error e) : projects d key = .error (.config e) := by
  obtain ⟨depth, hdepth⟩ := exists_depthLimit d
  rw [projects, hdepth, visit, if_neg (by simp [isListed]), if_neg List.not_mem_nil, h]

theorem projects_singleton {d : Disk} {key : Path} {p : Project}
    (hload : Project.load d key = .ok p) (hrefs : p.references = []) :
    projects d key = .ok [p] := by
  obtain ⟨depth, hdepth⟩ := exists_depthLimit d
  rw [projects, hdepth, visit, if_neg (by simp [isListed]), if_neg List.not_mem_nil, hload]
  simp only [hrefs, List.map_nil, visitAll, List.nil_append]

/-- Cleaning a solution finds nothing to remove, and nothing that stands in its way. -/
def IsTidy (d : Disk) (root : Path) : Prop :=
  (∀ removed, (clean d root).1 = .ok removed → removed = []) ∧
    ∀ e, (clean d root).1 ≠ .error (.remove e)

theorem clean_of_isTidy {d : Disk} {root : Path} (h : IsTidy d root) {p : Project}
    (hps : projects d root = .ok [p]) : clean d root = (.ok [], d) := by
  obtain ⟨hremoved, herror⟩ := h
  unfold clean at hremoved herror ⊢
  rw [hps] at hremoved herror ⊢
  dsimp only [cleanAll] at hremoved herror ⊢
  rcases hclean : p.clean d with ⟨r, d'⟩
  cases r with
  | error e =>
    rw [hclean] at herror
    exact absurd rfl (herror e)
  | ok removed =>
    rw [hclean] at hremoved
    have hnil : removed ++ [] = [] := hremoved _ rfl
    rw [List.append_nil] at hnil
    subst hnil
    rw [Project.removeFiles_eq_self hclean]
    rfl

theorem keyOf_dir {d : Disk} {dir : Path} (habs : dir.isAbsolute = true)
    (hnormal : dir.normalize = dir) (hdir : d.isDir dir = true) :
    keyOf d dir = dir.join Project.configName ∧
      Project.locate d dir = dir.join Project.configName := by
  have hlocate : Project.locate d dir = dir.join Project.configName := by
    rw [Project.locate, if_pos hdir]
  obtain ⟨names, hnames⟩ := Path.isCanonical_normalize habs
  rw [hnormal] at hnames
  have hname : Path.IsName "tsconfig.json".toList := by
    constructor <;> decide
  have hjoin : dir.join Project.configName =
      Path.ofPieces .root (names ++ ["tsconfig.json".toList]) :=
    hnames.isNormal.join ⟨_, [], rfl, hname.busy⟩ (by simp)
  have hcanonical : (dir.join Project.configName).IsCanonical (names ++ ["tsconfig.json".toList]) :=
    ⟨hjoin, by simpa [or_imp, forall_and] using ⟨hnames.2, hname⟩⟩
  exact ⟨by rw [keyOf, hlocate, hcanonical.normalize], hlocate⟩

end Solution

namespace Turn

variable {σ ε : Type}

theorem isUpToDate_eq_false {t : Turn σ} (h : t.disk.holds t.project.buildInfoPath = false) :
    t.isUpToDate = false := by
  by_contra hupToDate
  obtain ⟨place, bytes, -, -, hres, -⟩ := isUpToDate_iff.1 (Bool.not_eq_false _ ▸ hupToDate)
  rw [Disk.holds_iff.2 ⟨_, hres⟩] at h
  cases h

theorem hook_of_good {hook : Hook σ ε} {t : Turn σ} {outcome : ProjectOutcome} {d : Disk}
    {gathered : σ} (h : t.result hook = (.ok outcome, d, gathered))
    (hgood : outcome.status.isBad = false) (hupToDate : t.isUpToDate = false) :
    t.isChecked = true ∧
      hook t.emitted.2 t.project t.program t.gathered = (.ok (), gathered) := by
  have hends := t.result_ends hook
  rw [h] at hends
  cases hends with
  | skipped _ => cases hgood
  | upToDate _ hrecord =>
    rw [hrecord] at hupToDate
    cases hupToDate
  | faulty _ _ _ => cases hgood
  | unwritten _ _ _ _ => cases hgood
  | built hchecked hhook _ => exact ⟨hchecked, hhook⟩

end Turn

namespace SolutionRequest

/-- **What a run over a solution of one project has to say**, if the project was built: what the
check finds after the emit, as seen by the caller. -/
theorem run_singleton {d : Disk} {r : SolutionRequest} {p : Project} {o : Outcome}
    (hclean : Solution.clean d (r.root d) = (.ok [], d)) (hps : projects d (r.root d) = .ok [p])
    (h : (r.run d).1 = .ok o) (hbuilt : o.buildFailed = false) :
    ∃ ds, p.check (p.emitted d).2 (p.program d) = .ok ds ∧ (p.emitted d).1.diagnostics = [] ∧
      o = .ofDiagnostics (ds.map (rebase r.cwd p.dir)) := by
  have hupToDate : Turn.isUpToDate ⟨[], d, ([] : List Diagnostic), p⟩ = false := by
    obtain ⟨-, ps, hps', hholds⟩ := Solution.clean_ok hclean
    cases hps.symm.trans hps'
    exact Turn.isUpToDate_eq_false (hholds p List.mem_cons_self)
  have hbuild := build_of_projects (r := r) hps
  rw [Solution.buildAll_cons] at hbuild
  rcases hresult : Turn.result (checkHook r.cwd) ⟨[], d, [], p⟩ with ⟨result, d', found⟩
  rw [hresult] at hbuild
  cases result with
  | error e =>
    rw [run_of_build_error hclean hbuild] at h
    cases h
  | ok outcome =>
    rw [run_of_build_ok hclean hbuild] at h
    cases h
    have hgood : outcome.status.isBad = false := by
      unfold outcomeOf at hbuilt
      split at hbuilt
      · cases hbuilt
      · rename_i hgood
        simpa [Solution.hasFailed] using hgood
    obtain ⟨hchecked, hhook⟩ := Turn.hook_of_good hresult hgood hupToDate
    obtain ⟨ds, hds, rfl⟩ := check_of_checkHook hhook
    have hemit := (Turn.isChecked_iff.1 hchecked).2.2.2
    refine ⟨ds, hds, List.isEmpty_iff.1 hemit, ?_⟩
    rw [outcomeOf, if_neg (by simp [Solution.hasFailed, hgood]), List.nil_append]

/-- A project that needs no other is run from its directory, directly and as a solution, on the same
disk.  Both runs end well, with these outcomes, and the build did not fail. -/
structure RunsBothWays (d : Disk) (dir : Path) (o o' : Outcome) : Prop where
  absolute : dir.isAbsolute = true
  normal : dir.normalize = dir
  there : d.isDir dir = true
  single : ∀ p, Project.load d (dir.join Project.configName) = .ok p → p.references = []
  direct : (DirectRequest.run d { cwd := dir }).1 = .ok o
  solution : ∃ r, ofProjects dir [] = .ok r ∧ (r.run d).1 = .ok o'
  built : o'.buildFailed = false

/-- **A project that needs no other says the same in both ways to run.** If there was nothing to
clean, no output is the exemption file, and the emit does not change why the exemption file is out
of reach, then what the two runs say differs at most in paths, and the exit codes are the same. -/
theorem modes_agree (d : Disk) (dir : Path) (o o' : Outcome) (h : RunsBothWays d dir o o')
    (htidy : Solution.IsTidy d (keyOf d dir))
    (hexemptions : ∀ p, Project.load d (dir.join Project.configName) = .ok p →
      p.OutputsApart d ∧ p.ExemptionsStay d) :
    o.diagnostics.map (·.pathless) = o'.diagnostics.map (·.pathless) ∧
      o.exitCode = o'.exitCode := by
  obtain ⟨r, hr, hsolution⟩ := h.solution
  cases hr
  obtain ⟨hkey, hlocate⟩ := Solution.keyOf_dir h.absolute h.normal h.there
  have hsettle : DirectRequest.settle d { cwd := dir } =
      Project.load d (dir.join Project.configName) := by
    rw [← hlocate]
    rfl
  have hdirect := h.direct
  cases hload : Project.load d (dir.join Project.configName) with
  | error e =>
    have hps : projects d (keyOf d dir) = .error (.config e) := by
      rw [hkey]
      exact Solution.projects_of_load_error hload
    rw [run_of_projects_error (r := ⟨dir, dir⟩) hps] at hsolution
    rw [DirectRequest.run, hsettle, hload] at hdirect
    cases hsolution
    cases hdirect
    exact ⟨rfl, rfl⟩
  | ok p =>
    obtain ⟨hapart, hstay⟩ := hexemptions p hload
    have hps : projects d (keyOf d dir) = .ok [p] := by
      rw [hkey]
      exact Solution.projects_singleton hload (h.single p hload)
    have hclean := Solution.clean_of_isTidy htidy hps
    obtain ⟨ds, hds, hemit, rfl⟩ := run_singleton (r := ⟨dir, dir⟩) hclean hps hsolution h.built
    rw [Project.check_emitted hapart hstay] at hds
    obtain ⟨found, hfound, rfl⟩ := DirectRequest.run_of_settle (hsettle.trans hload) hdirect
    cases hfound.symm.trans hds
    rw [Project.emit_diagnostics_of_nil hemit, List.append_nil]
    constructor
    · simp [Outcome.ofDiagnostics, Function.comp_def]
    · simp [Outcome.ofDiagnostics, Outcome.exitCode]

/-! ## Projects that are run both ways -/

def codesOf (o : Outcome) : Nat × List UInt32 := (o.exitCode, o.diagnostics.map (·.code))

theorem runsBothWays_of_eval {d : Disk} {dir : Path} {codes codes' : Nat × List UInt32}
    (hdir : dir.isAbsolute = true ∧ dir.normalize = dir ∧ d.isDir dir = true)
    (hload : (Project.load d (dir.join Project.configName)).toOption.all (·.references.isEmpty))
    (hdirect : (DirectRequest.run d { cwd := dir }).1.toOption.map codesOf = some codes)
    (hsolution : (run d ⟨dir, dir⟩).1.toOption.map (fun o => (o.buildFailed, codesOf o)) =
      some (false, codes')) :
    ∃ o o', RunsBothWays d dir o o' ∧ codesOf o = codes ∧ codesOf o' = codes' := by
  obtain ⟨o, ho, hcodes⟩ := exists_eq_ok_of_map hdirect
  obtain ⟨o', ho', hcodes'⟩ := exists_eq_ok_of_map hsolution
  obtain ⟨hbuilt, hcodes'⟩ := Prod.mk.inj hcodes'
  refine ⟨o, o', ⟨hdir.1, hdir.2.1, hdir.2.2, fun p hp => ?_, ho, ⟨_, rfl, ho'⟩, hbuilt⟩, hcodes,
    hcodes'⟩
  rw [hp] at hload
  exact List.isEmpty_iff.1 hload

theorem isTidy_of_eval {d : Disk} {root : Path} (h : (Solution.clean d root).1 = .ok []) :
    Solution.IsTidy d root := by
  unfold Solution.IsTidy
  rw [h]
  exact ⟨fun removed hremoved => (Except.ok.inj hremoved).symm, fun e he => by cases he⟩

theorem forall_load_of_eval {d : Disk} {key : Path} {P : Project → Prop} [DecidablePred P]
    (h : (Project.load d key).toOption.all (fun p => decide (P p)) = true) :
    ∀ p, Project.load d key = .ok p → P p := by
  intro p hp
  rw [hp] at h
  exact of_decide_eq_true h

/-- A project in `/p` with an output below `o`, some remarks of the type checker, and a path for its
exemption file, which is `/p/e`. The documents are lists of their fields. -/
def exempted (path remarks : String) : Disk where
  entries :=
    [([['p']], .dir), ([['p'], ['e']], .file "\x7b\x7d".toUTF8),
      ([['p'], "tsconfig.json".toList], .file
        ("[[null,null,\"o\",null,null,[[\"tsconform\",\"" ++ path ++ "\"]]],[\"t\"]]").toUTF8),
      ([['p'], ['t']], .file ("[\"a.ts\",false,\"\",[" ++ remarks ++ "],\"a();\"]").toUTF8)]
  here := []

/-- The exemption file is named by its own path, and there is a warning. -/
def warned : Disk := exempted "e" "[\"warning\",7,\"m\",0]"

theorem modes_agree_warned : ∃ o o', RunsBothWays warned (.ofString "/p") o o' ∧
    codesOf o = (1, [7]) ∧ o.diagnostics.map (·.pathless) = o'.diagnostics.map (·.pathless) ∧
    o.exitCode = o'.exitCode := by
  obtain ⟨o, o', hruns, hcodes, -⟩ : ∃ o o', RunsBothWays warned (.ofString "/p") o o' ∧
      codesOf o = (1, [7]) ∧ codesOf o' = (1, [7]) :=
    runsBothWays_of_eval (by decide) (by decide +kernel) (by decide +kernel) (by decide +kernel)
  refine ⟨o, o', hruns, hcodes, ?_⟩
  exact modes_agree warned (.ofString "/p") o o' hruns (isTidy_of_eval (by decide +kernel))
    (forall_load_of_eval (by decide +kernel))

/-- The exemption file is named by a path that goes through the directory of the outputs. -/
def winding : Disk := exempted "o/../e" ""

/-- A directory stands where the record of the project in `/p` would be. -/
def obstructed : Disk where
  entries :=
    [([['p']], .dir), ([['p'], "tsconfig.json".toList], .file "\x7b\"files\":[]\x7d".toUTF8),
      ([['p'], "tsconfig.tsbuildinfo".toList], .dir)]
  here := []

/-- **The two ways to run a project may differ** where there is nothing to remove and no output is
the exemption file.  Before the emit the exemption file may be out of reach, which is an error, and
in reach after it; and a record that cannot be removed is an error of the one run only. -/
theorem modes_differ :
    (∃ o o', RunsBothWays winding (.ofString "/p") o o' ∧
      Solution.IsTidy winding (keyOf winding (.ofString "/p")) ∧
      (∀ p, Project.load winding ((Path.ofString "/p").join Project.configName) = .ok p →
        p.OutputsApart winding) ∧
      codesOf o = (1, [Diagnostic.exemptionCode]) ∧ codesOf o' = (0, [])) ∧
    ∃ o o', RunsBothWays obstructed (.ofString "/p") o o' ∧
      (Solution.clean obstructed (keyOf obstructed (.ofString "/p"))).2.entries =
        obstructed.entries ∧
      (∀ p, Project.load obstructed ((Path.ofString "/p").join Project.configName) = .ok p →
        p.OutputsApart obstructed ∧ p.ExemptionsStay obstructed) ∧
      codesOf o = (0, []) ∧ codesOf o' = (1, [Diagnostic.configCode]) := by
  constructor
  · obtain ⟨o, o', hruns, hcodes, hcodes'⟩ : ∃ o o', RunsBothWays winding (.ofString "/p") o o' ∧
        codesOf o = (1, [Diagnostic.exemptionCode]) ∧ codesOf o' = (0, []) :=
      runsBothWays_of_eval (by decide) (by decide +kernel) (by decide +kernel) (by decide +kernel)
    exact ⟨o, o', hruns, isTidy_of_eval (by decide +kernel),
      forall_load_of_eval (by decide +kernel), hcodes, hcodes'⟩
  · obtain ⟨o, o', hruns, hcodes, hcodes'⟩ : ∃ o o', RunsBothWays obstructed (.ofString "/p") o o' ∧
        codesOf o = (0, []) ∧ codesOf o' = (1, [Diagnostic.configCode]) :=
      runsBothWays_of_eval (by decide) (by decide +kernel) (by decide +kernel) (by decide +kernel)
    exact ⟨o, o', hruns, by decide +kernel, forall_load_of_eval (by decide +kernel), hcodes,
      hcodes'⟩

end SolutionRequest

end Conformance
