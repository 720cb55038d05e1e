import Conformance.Proofs.Solution.Cleaning
import Conformance.Proofs.Solution.Turn
import Conformance.Run.Solution
/-!
# Which projects a run checks

A run cleans its solution so that no project is up to date and every one is checked.  Cleaning
removes what the path of a record leads to; a path that leads nowhere is passed over.  But a path
that goes into a directory and out of it again leads nowhere only as long as that directory is
missing, and a project that is built earlier may make it.  A record that stood behind such a path
is a leftover: it is in reach again when the turn of its project comes.

That is the only way.  Unless records share their places with other records or with outputs, every
file that a record's path leads to at its turn stood on the disk when the solution was cleaned, so
a project is passed over exactly when it has a leftover.
-/
namespace Conformance

open Disk (Grows Wrote)

namespace Turn

variable {σ ε : Type}

/-- A project is passed over because of a record that cleaning did not reach: its path led nowhere
then, and leads now to a file that was there all along. -/
structure Leftover (cleaned : Disk) (t : Turn σ) : Prop where
  unblocked : t.isBlocked = false
  unreached : cleaned.holds t.project.buildInfoPath = false
  record : ∃ place bytes text info,
    t.disk.resolve t.project.buildInfoPath = .ok (place, .file bytes) ∧
    cleaned.find? place = some (.file bytes) ∧
    String.fromUTF8? bytes = some text ∧ BuildInfo.parse text = .ok info ∧
    info.signature = t.signature ∧
    ∀ output ∈ info.outputPaths t.project, t.disk.holds output = true

/-- No record is where another project's record or an output is. Paths are followed on the disk
after the build: where they meet at a turn, they meet there. -/
def RecordsApart (ts : List (Turn σ)) (after : Disk) : Prop :=
  ∀ t ∈ ts, ∀ t' ∈ ts,
    (t'.project.configPath ≠ t.project.configPath →
      after.meet t.project.buildInfoPath t'.project.buildInfoPath = false) ∧
    ∀ output ∈ t'.outputs, after.meet t.project.buildInfoPath output = false

instance (ts : List (Turn σ)) (after : Disk) : Decidable (RecordsApart ts after) :=
  inferInstanceAs (Decidable (∀ t ∈ ts, ∀ t' ∈ ts, _ ∧ ∀ output ∈ t'.outputs, _))

/-! ## Records in reach -/

theorem isUpToDate_iff {t : Turn σ} : t.isUpToDate = true ↔ ∃ place bytes text info,
    t.disk.resolve t.project.buildInfoPath = .ok (place, .file bytes) ∧
    String.fromUTF8? bytes = some text ∧ BuildInfo.parse text = .ok info ∧
    info.signature = t.signature ∧
    ∀ output ∈ info.outputPaths t.project, t.disk.holds output = true := by
  unfold isUpToDate Project.isUpToDate BuildInfo.read
  constructor
  · intro h
    split at h
    · cases h
    · rename_i info hinfo
      split at hinfo
      · cases hinfo
      · rename_i text htext
        obtain ⟨place, bytes, hres, hutf⟩ := Disk.readText_eq_ok.1 htext
        rw [Bool.and_eq_true, beq_iff_eq, List.all_eq_true] at h
        refine ⟨place, bytes, text, info, hres, hutf, ?_, h.1, h.2⟩
        cases hparse : BuildInfo.parse text with
        | error e =>
          rw [hparse] at hinfo
          cases hinfo
        | ok i =>
          rw [hparse] at hinfo
          cases hinfo
          rfl
  · rintro ⟨place, bytes, text, info, hres, hutf, hparse, hsig, hout⟩
    have htext : t.disk.readText t.project.buildInfoPath = .ok text :=
      Disk.readText_eq_ok.2 ⟨place, bytes, hres, hutf⟩
    simp only [htext, hparse, Except.toOption, hsig, beq_self_eq_true, Bool.true_and,
      List.all_eq_true]
    exact hout

theorem Leftover.isUpToDate {cleaned : Disk} {t : Turn σ} (h : t.Leftover cleaned) :
    t.isUpToDate = true := by
  obtain ⟨place, bytes, text, info, hres, -, hrest⟩ := h.record
  exact isUpToDate_iff.2 ⟨place, bytes, text, info, hres, hrest⟩

/-- **The path of a leftover goes up.** On a tree, a path without double dots would have led to the
record when the solution was cleaned. -/
theorem Leftover.dotDot_mem {cleaned : Disk} {t : Turn σ} (h : t.Leftover cleaned)
    (htree : cleaned.IsTree) (hgrows : Grows cleaned t.disk) :
    Path.dotDot ∈ t.project.buildInfoPath.pieces := by
  by_contra hup
  obtain ⟨place, bytes, -, -, hres, hstood, -⟩ := h.record
  obtain ⟨hcheck, hfollow⟩ := Disk.follow_of_resolve hres
  have hstart : t.disk.start t.project.buildInfoPath =
      cleaned.start t.project.buildInfoPath := by
    unfold Disk.start
    rw [hgrows.here]
  rw [hstart] at hfollow
  have hreached : cleaned.resolve t.project.buildInfoPath = .ok (place, .file bytes) := by
    unfold Disk.resolve
    rw [hcheck]
    exact htree.follow hup hfollow hstood
  have hunreached := h.unreached
  rw [Disk.holds_iff.2 ⟨_, hreached⟩] at hunreached
  cases hunreached

end Turn

namespace Solution

variable {σ ε : Type}

theorem configPath_ne_of_turns {hook : Hook σ ε} {ps : List Project} {d : Disk} {gathered : σ}
    (hps : (ps.map (·.configPath)).Nodup) {before after : List (Turn σ)} {t t' : Turn σ}
    (h : turns hook [] d gathered ps = before ++ t :: after) (ht' : t' ∈ before) :
    t'.project.configPath ≠ t.project.configPath := by
  have hfront := turns_project hook ps [] d gathered
  rw [h] at hfront
  have hnodup : ((before ++ t :: after).map fun t => t.project.configPath).Nodup := by
    have hsub := (hfront.map fun p : Project => p.configPath).sublist
    rw [List.map_map] at hsub
    exact hps.sublist hsub
  rw [List.map_append, List.nodup_append] at hnodup
  exact hnodup.2.2 _ (List.mem_map.2 ⟨t', ht', rfl⟩) _ (List.mem_map.2 ⟨t, List.mem_cons_self, rfl⟩)

/-- **A record in reach that no turn wrote is a leftover.** -/
theorem leftover_of_isUpToDate {hook : Hook σ ε} {ps : List Project} {cleaned : Disk}
    {gathered : σ} (hps : (ps.map (·.configPath)).Nodup)
    (hholds : ∀ p ∈ ps, cleaned.holds p.buildInfoPath = false)
    (hapart : Turn.RecordsApart (turns hook [] cleaned gathered ps)
      (buildAll hook [] cleaned gathered ps).2.1)
    {t : Turn σ} (ht : t ∈ turns hook [] cleaned gathered ps)
    (hblocked : t.isBlocked = false) (h : t.isUpToDate = true) : t.Leftover cleaned := by
  obtain ⟨place, bytes, text, info, hres, hrest⟩ := Turn.isUpToDate_iff.1 h
  obtain ⟨before, after, hsplit⟩ := List.append_of_mem ht
  obtain ⟨hwrote, hgrows⟩ := wrote_turns hook ps [] cleaned gathered before t after hsplit
  have hmem : t.project ∈ ps :=
    (turns_project hook ps [] cleaned gathered).subset (List.mem_map.2 ⟨t, ht, rfl⟩)
  refine ⟨hblocked, hholds _ hmem, place, bytes, text, info, hres, ?_, hrest⟩
  have hmeet : ∀ {path : Path}, t.disk.place? path = some place →
      (buildAll hook [] cleaned gathered ps).2.1.meet t.project.buildInfoPath path = true :=
    fun hpath => Disk.meet_of_place? (hgrows.place? (Disk.place?_eq_some.2 ⟨_, hres⟩))
      (hgrows.place? hpath)
  rcases hwrote.stood place bytes (Disk.find?_of_resolve hres) with hstood | ⟨path, hpath, hsaved⟩
  · exact hstood
  · -- A file of an earlier turn would have the place of the record.
    exfalso
    obtain ⟨t', ht', hpath⟩ := List.mem_flatMap.1 hpath
    have ht'mem : t' ∈ turns hook [] cleaned gathered ps := by
      rw [hsplit]
      exact List.mem_append_left _ ht'
    obtain ⟨hrecord, houtput⟩ := hapart t ht t' ht'mem
    rcases List.mem_append.1 hpath with hpath | hpath
    · exact absurd (hmeet hsaved) (by simp [houtput path hpath])
    · rw [List.mem_singleton.1 hpath] at hsaved
      exact absurd (hmeet hsaved) (by simp [hrecord (configPath_ne_of_turns hps hsplit ht')])

end Solution

/-! ## What the check gathers -/

section

variable {α ε : Type} {hook : Hook (List α) ε}

theorem Turn.gathered_prefix_result
    (hgrows : ∀ d p program found, found <+: (hook d p program found).2) (t : Turn (List α)) :
    t.gathered <+: (t.result hook).2.2 := by
  have hends := t.result_ends hook
  have hhook := hgrows t.emitted.2 t.project t.program t.gathered
  generalize t.result hook = r at hends
  cases hends with
  | skipped _ => exact List.prefix_refl _
  | upToDate _ _ => exact List.prefix_refl _
  | overflowing _ _ _ => exact List.prefix_refl _
  | faulty _ _ _ _ => exact List.prefix_refl _
  | unwritten _ _ _ _ => exact List.prefix_refl _
  | refused _ h =>
    rw [h] at hhook
    exact hhook
  | unrecorded _ h _ =>
    rw [h] at hhook
    exact hhook
  | built _ h _ =>
    rw [h] at hhook
    exact hhook

theorem Solution.gathered_prefix_buildAll
    (hgrows : ∀ d p program found, found <+: (hook d p program found).2) :
    ∀ (ps : List Project) (done : List ProjectOutcome) (d : Disk) (found : List α),
      found <+: (buildAll hook done d found ps).2.2
  | [], _, _, found => List.prefix_refl found
  | p :: ps, done, d, found => by
    have hfirst := Turn.gathered_prefix_result hgrows ⟨done, d, found, p⟩
    rw [buildAll_cons]
    split
    · rename_i hresult
      rw [hresult] at hfirst
      exact hfirst
    · rename_i hresult
      rw [hresult] at hfirst
      exact hfirst.trans (gathered_prefix_buildAll hgrows ps _ _ _)

theorem Solution.gathered_prefix_of_mem
    (hgrows : ∀ d p program found, found <+: (hook d p program found).2) :
    ∀ (ps : List Project) (done : List ProjectOutcome) (d : Disk) (found : List α),
      ∀ t ∈ turns hook done d found ps,
        (t.result hook).2.2 <+: (buildAll hook done d found ps).2.2
  | [], _, _, _, _, ht => by cases ht
  | p :: ps, done, d, found, t, ht => by
    rw [turns] at ht
    rw [buildAll_cons]
    rcases List.mem_cons.1 ht with rfl | ht
    · split
      · rename_i hresult
        simp only [hresult, List.prefix_refl]
      · rename_i hresult
        rw [hresult]
        exact gathered_prefix_buildAll hgrows ps _ _ _
    · split at ht
      · cases ht
      · exact gathered_prefix_of_mem hgrows ps _ _ _ t ht

end

namespace SolutionRequest

theorem checkHook_keeps (cwd : Path) (d : Disk) (p : Project) (program : Program)
    (found : List Diagnostic) : found <+: (checkHook cwd d p program found).2 := by
  unfold checkHook
  split
  · exact List.prefix_refl found
  · exact List.prefix_append found _

theorem check_of_checkHook {cwd : Path} {d : Disk} {p : Project} {program : Program}
    {found found' : List Diagnostic} (h : checkHook cwd d p program found = (.ok (), found')) :
    ∃ ds, p.check d program = .ok ds ∧ found' = found ++ ds.map (rebase cwd p.dir) := by
  unfold checkHook at h
  split at h
  · cases h
  · rename_i ds hds
    cases h
    exact ⟨ds, hds, rfl⟩

/-! ## Runs -/

def root (r : SolutionRequest) (d : Disk) : Path := Solution.keyOf d r.project

def turns (r : SolutionRequest) (root : Path) (d : Disk) : List (Turn (List Diagnostic)) :=
  match Solution.projects d root with
  | .error _ => []
  | .ok ps => Solution.turns (checkHook r.cwd) [] d [] ps

def calls (r : SolutionRequest) (root : Path) (d : Disk) : List Call :=
  (Solution.build (checkHook r.cwd).recording d ([], []) root).2.2.2

/-- A run over a solution that was cleaned checks every project: none is passed over, the check is
called once for each that passes load and emit, in the order of the solution, and if the exit code
is zero then every project that the root needs was checked as it is, and nothing was found. -/
structure ChecksAll (d : Disk) (r : SolutionRequest) (cleaned : Disk) : Prop where
  inOrder : ∀ ps, Solution.projects d (r.root d) = .ok ps →
    (r.turns (r.root d) cleaned).map (·.project) <+: ps
  nonePassedOver : ∀ t ∈ r.turns (r.root d) cleaned,
    t.status? (checkHook r.cwd) ≠ some .upToDate
  called : r.calls (r.root d) cleaned =
    ((r.turns (r.root d) cleaned).filter (·.passes)).map (·.call)
  clear : ∀ outcome, (r.run d).1 = .ok outcome → outcome.exitCode = 0 →
    ∀ key, Solution.Reaches d (r.root d) key → ∃ t ∈ r.turns (r.root d) cleaned,
      Project.load d key = .ok t.project ∧ t.call ∈ r.calls (r.root d) cleaned ∧
        t.project.check t.call.disk t.call.program = .ok []

theorem calls_eq (r : SolutionRequest) (root : Path) (d : Disk) :
    r.calls root d = ((r.turns root d).filter (·.isChecked)).map (·.call) := by
  unfold calls turns Solution.build
  cases Solution.projects d root with
  | error e => rfl
  | ok ps => simp [Solution.buildAll_recording]

theorem run_of_build_error {d cleaned d' : Disk} {r : SolutionRequest} {removed : List Path}
    {e : SolutionRunError} {found : List Diagnostic}
    (hclean : Solution.clean d (r.root d) = (.ok removed, cleaned))
    (hbuild : Solution.build (checkHook r.cwd) cleaned [] (r.root d) = (.error e, d', found)) :
    r.run d = (.error e, d') := by
  have hroot : Solution.keyOf d r.project = r.root d := rfl
  unfold run
  dsimp only
  rw [hroot, hclean]
  dsimp only
  rw [hbuild]

theorem run_of_build_ok {d cleaned d' : Disk} {r : SolutionRequest} {removed : List Path}
    {outcomes : List ProjectOutcome} {found : List Diagnostic}
    (hclean : Solution.clean d (r.root d) = (.ok removed, cleaned))
    (hbuild : Solution.build (checkHook r.cwd) cleaned [] (r.root d) = (.ok outcomes, d', found)) :
    r.run d = (.ok (outcomeOf r.cwd outcomes found), d') := by
  have hroot : Solution.keyOf d r.project = r.root d := rfl
  unfold run
  dsimp only
  rw [hroot, hclean]
  dsimp only
  rw [hbuild]

theorem checked_or_upToDate {cwd : Path} {ps : List Project} {d d' : Disk}
    {outcomes : List ProjectOutcome} (h : Solution.buildAll (checkHook cwd) [] d [] ps =
      (.ok outcomes, d', [])) (hgood : Solution.hasFailed outcomes = false) :
    ∀ t ∈ Solution.turns (checkHook cwd) [] d [] ps, t.status? (checkHook cwd) = some .upToDate ∨
      t.isChecked = true ∧ t.project.check t.call.disk t.call.program = .ok [] := by
  intro t ht
  have hends := t.result_ends (checkHook cwd)
  have hfound := Solution.gathered_prefix_of_mem (checkHook_keeps cwd) ps [] d [] t ht
  rw [h] at hfound
  have houtcome : (t.result (checkHook cwd)).1.toOption ∈ outcomes.map some := by
    rw [(Solution.buildAll_ok _ h).2]
    exact List.mem_append_right _ (List.mem_map.2 ⟨t, ht, rfl⟩)
  obtain ⟨o, ho, hresult⟩ := List.mem_map.1 houtcome
  have hgoodOne : o.status.isBad = false := by
    have hall := List.any_eq_false.1 hgood o ho
    simpa using hall
  unfold Turn.status?
  generalize t.result (checkHook cwd) = result at hends hfound hresult
  cases hends with
  | skipped _ =>
    cases hresult
    cases hgoodOne
  | upToDate _ _ => exact .inl rfl
  | overflowing _ _ _ => cases hresult
  | faulty _ _ _ _ =>
    cases hresult
    cases hgoodOne
  | unwritten _ _ _ _ =>
    cases hresult
    cases hgoodOne
  | refused _ _ => cases hresult
  | unrecorded _ _ _ => cases hresult
  | built hchecked hhook _ =>
    obtain ⟨ds, hds, rfl⟩ := check_of_checkHook hhook
    have hnil := List.prefix_nil.1 hfound
    simp only [List.append_eq_nil_iff, List.map_eq_nil_iff] at hnil
    rw [hnil.2] at hds
    exact .inr ⟨hchecked, hds⟩

theorem turns_of_projects {r : SolutionRequest} {root : Path} {d : Disk} {ps : List Project}
    (h : Solution.projects d root = .ok ps) :
    r.turns root d = Solution.turns (checkHook r.cwd) [] d [] ps := by
  unfold turns
  rw [h]

theorem projects_of_mem_turns {r : SolutionRequest} {root : Path} {d : Disk}
    {t : Turn (List Diagnostic)} (h : t ∈ r.turns root d) :
    ∃ ps, Solution.projects d root = .ok ps := by
  unfold turns at h
  split at h
  · cases h
  · rename_i ps hps
    exact ⟨ps, hps⟩

theorem build_of_projects {r : SolutionRequest} {root : Path} {d : Disk} {ps : List Project}
    (h : Solution.projects d root = .ok ps) :
    Solution.build (checkHook r.cwd) d [] root =
      Solution.buildAll (checkHook r.cwd) [] d [] ps := by
  unfold Solution.build
  rw [h]

theorem run_disk {d cleaned : Disk} {r : SolutionRequest} {removed : List Path}
    (hclean : Solution.clean d (r.root d) = (.ok removed, cleaned)) :
    (r.run d).2 = (Solution.build (checkHook r.cwd) cleaned [] (r.root d)).2.1 := by
  rcases hbuild : Solution.build (checkHook r.cwd) cleaned [] (r.root d) with ⟨result, d', found⟩
  cases result with
  | error e => rw [run_of_build_error hclean hbuild]
  | ok outcomes => rw [run_of_build_ok hclean hbuild]

theorem build_of_exitCode {d cleaned : Disk} {r : SolutionRequest} {removed : List Path}
    (hclean : Solution.clean d (r.root d) = (.ok removed, cleaned)) {outcome : Outcome}
    (h : (r.run d).1 = .ok outcome) (hexit : outcome.exitCode = 0) :
    ∃ outcomes d', Solution.build (checkHook r.cwd) cleaned [] (r.root d) =
      (.ok outcomes, d', []) ∧ Solution.hasFailed outcomes = false := by
  rcases hbuild : Solution.build (checkHook r.cwd) cleaned [] (r.root d) with ⟨result, d', found⟩
  cases result with
  | error e =>
    rw [run_of_build_error hclean hbuild] at h
    cases h
  | ok outcomes =>
    rw [run_of_build_ok hclean hbuild] at h
    cases h
    obtain ⟨hfailed, hfound⟩ := (Outcome.exitCode_eq_zero_iff _).1 hexit
    unfold outcomeOf at hfailed hfound
    cases hgood : Solution.hasFailed outcomes with
    | true =>
      rw [if_pos hgood] at hfailed
      cases hfailed
    | false =>
      rw [if_neg (by simp [hgood])] at hfound
      cases hfound
      exact ⟨outcomes, d', rfl, hgood⟩

/-- **A project that is passed over has a leftover.** -/
theorem leftover_of_upToDate {d cleaned : Disk} {r : SolutionRequest}
    (hproject : r.project.isAbsolute = true) {removed : List Path}
    (hclean : Solution.clean d (r.root d) = (.ok removed, cleaned))
    (hapart : Turn.RecordsApart (r.turns (r.root d) cleaned) (r.run d).2) :
    ∀ t ∈ r.turns (r.root d) cleaned, t.status? (checkHook r.cwd) = some .upToDate →
      t.Leftover cleaned := by
  intro t ht hstatus
  obtain ⟨names, hroot⟩ := Solution.isCanonical_keyOf d hproject
  obtain ⟨hshrinks, ps, hps, hholds⟩ := Solution.clean_ok hclean
  obtain ⟨ps', hps'⟩ := projects_of_mem_turns ht
  have hsame := Except.ok.inj
    ((Solution.projects_of_shrinks hshrinks hroot hps').symm.trans hps)
  subst hsame
  obtain ⟨hblocked, hupToDate⟩ := (t.status?_eq_upToDate _).1 hstatus
  -- The order was found again after cleaning, so these are the projects that were cleaned.
  rw [turns_of_projects hps'] at ht hapart
  rw [run_disk hclean, build_of_projects hps'] at hapart
  exact Solution.leftover_of_isUpToDate (Solution.isOrder_of_projects hps).once hholds hapart ht
    hblocked hupToDate

theorem isChecked_eq_passes {hook : Hook (List Diagnostic) CheckError}
    {t : Turn (List Diagnostic)} (h : t.status? hook ≠ some .upToDate) :
    t.isChecked = t.passes := by
  rw [Ne, Turn.status?_eq_upToDate, not_and] at h
  unfold Turn.isChecked Turn.passes
  cases hblocked : t.isBlocked with
  | true => simp
  | false => simp [h hblocked]

theorem checksAll_of_nonePassedOver {d cleaned : Disk} {r : SolutionRequest}
    (hproject : r.project.isAbsolute = true) {removed : List Path}
    (hclean : Solution.clean d (r.root d) = (.ok removed, cleaned))
    (hnone : ∀ t ∈ r.turns (r.root d) cleaned, t.status? (checkHook r.cwd) ≠ some .upToDate) :
    ChecksAll d r cleaned := by
  obtain ⟨names, hroot⟩ := Solution.isCanonical_keyOf d hproject
  have hshrinks := (Solution.clean_ok hclean).1
  refine ⟨fun ps hps => ?_, hnone, ?_, fun outcome ho hexit key hkey => ?_⟩
  · cases hps' : Solution.projects cleaned (r.root d) with
    | error e =>
      unfold turns
      rw [hps']
      exact List.nil_prefix
    | ok ps' =>
      have hsame := Except.ok.inj
        ((Solution.projects_of_shrinks hshrinks hroot hps').symm.trans hps)
      subst hsame
      rw [turns_of_projects hps']
      exact Solution.turns_project _ ps' [] cleaned []
  · rw [calls_eq]
    congr 1
    exact List.filter_congr fun t ht => isChecked_eq_passes (hnone t ht)
  · obtain ⟨outcomes, d', hbuild, hgood⟩ := build_of_exitCode hclean ho hexit
    cases hps : Solution.projects cleaned (r.root d) with
    | error e =>
      unfold Solution.build at hbuild
      rw [hps] at hbuild
      cases hbuild
    | ok ps =>
      rw [build_of_projects hps] at hbuild
      have horder := Solution.isOrder_of_projects
        (Solution.projects_of_shrinks hshrinks hroot hps)
      obtain ⟨p, hp, hpath⟩ := List.mem_map.1 ((horder.whole key).2 hkey)
      obtain ⟨key', hkey', hload⟩ := horder.loaded p hp
      have hsame := Option.some_inj.1 (hkey'.symm.trans hpath)
      subst hsame
      rw [← (Solution.buildAll_ok _ hbuild).1] at hp
      obtain ⟨t, ht, rfl⟩ := List.mem_map.1 hp
      have hturn := checked_or_upToDate hbuild hgood t ht
      rw [← turns_of_projects hps] at ht
      rcases hturn with hupToDate | ⟨hchecked, hcheck⟩
      · exact absurd hupToDate (hnone t ht)
      · refine ⟨t, ht, hload, ?_, hcheck⟩
        rw [calls_eq]
        exact List.mem_map.2 ⟨t, List.mem_filter.2 ⟨ht, hchecked⟩, rfl⟩

/-- **A run checks every project of a tree whose records' paths have no double dots.** -/
theorem checksAll_of_dotDot_not_mem {d cleaned : Disk} {r : SolutionRequest}
    (hproject : r.project.isAbsolute = true) {removed : List Path}
    (hclean : Solution.clean d (r.root d) = (.ok removed, cleaned))
    (hapart : Turn.RecordsApart (r.turns (r.root d) cleaned) (r.run d).2) (htree : d.IsTree)
    (hup : ∀ t ∈ r.turns (r.root d) cleaned, Path.dotDot ∉ t.project.buildInfoPath.pieces) :
    ChecksAll d r cleaned := by
  refine checksAll_of_nonePassedOver hproject hclean fun t ht hupToDate => ?_
  have hleft := leftover_of_upToDate hproject hclean hapart t ht hupToDate
  obtain ⟨ps, hps⟩ := projects_of_mem_turns ht
  have hmem := ht
  rw [turns_of_projects hps] at hmem
  obtain ⟨before, after, hsplit⟩ := List.append_of_mem hmem
  have hgrows := (Solution.wrote_turns _ ps [] cleaned [] before t after hsplit).1.grows
  exact hup t ht (hleft.dotDot_mem ((Solution.clean_ok hclean).1.isTree htree) hgrows)

/-- **A run checks every project exactly when no project has a leftover**, as long as its solution
could be cleaned and no record has the place of another or of an output. -/
theorem checksAll_iff (d : Disk) (r : SolutionRequest) (hproject : r.project.isAbsolute = true)
    (removed : List Path) (cleaned : Disk)
    (hclean : Solution.clean d (r.root d) = (.ok removed, cleaned))
    (hapart : Turn.RecordsApart (r.turns (r.root d) cleaned) (r.run d).2) :
    ChecksAll d r cleaned ↔ ∀ t ∈ r.turns (r.root d) cleaned, ¬ t.Leftover cleaned := by
  constructor
  · intro hall t ht hleft
    exact hall.nonePassedOver t ht
      ((t.status?_eq_upToDate _).2 ⟨hleft.unblocked, hleft.isUpToDate⟩)
  · intro hnone
    refine checksAll_of_nonePassedOver hproject hclean fun t ht hupToDate => ?_
    exact hnone t ht (leftover_of_upToDate hproject hclean hapart t ht hupToDate)

theorem clean_eq {d : Disk} {root : Path} {removed : List Path}
    (h : (Solution.clean d root).1 = .ok removed) :
    Solution.clean d root = (.ok removed, (Solution.clean d root).2) := by
  rw [← h]

/-- Two projects. The path of the first one's record goes through a directory that only the second
one, which is built before, makes. -/
def detour : Disk where
  entries :=
    [([['p']], .dir), ([['q']], .dir),
      ([['p'], "tsconfig.json".toList], .file ("\x7b\"compilerOptions\":" ++
        "\x7b\"tsBuildInfoFile\":\"g/../i\"\x7d,\"files\":[]," ++
        "\"references\":[\x7b\"path\":\"../q\"\x7d]\x7d").toUTF8),
      ([['q'], "tsconfig.json".toList], .file ("\x7b\"compilerOptions\":" ++
        "\x7b\"outDir\":\"../p/g\"\x7d,\"files\":[]\x7d").toUTF8)]
  here := []

/-- The same, with the record of an earlier build. -/
def detourAgain : Disk :=
  detour.put [['p'], ['i']] (.file ("\x7b\"version\":\"0.1.0\",\"signature\":" ++
    "\"142ad88f9de0c912b9229b1c9d6e28b1cd28f49a176f5268c2fe4299ebc66498\"\x7d").toUTF8)

def detourRequest : SolutionRequest := ⟨.ofString "/", .ofString "/p"⟩

theorem checksAll_iff_detour : ChecksAll detour detourRequest
    (Solution.clean detour (detourRequest.root detour)).2 := by
  have hfacts : (Solution.clean detour (detourRequest.root detour)).1 = .ok [] ∧
      Turn.RecordsApart (detourRequest.turns (detourRequest.root detour)
        (Solution.clean detour (detourRequest.root detour)).2) (detourRequest.run detour).2 ∧
      ∀ t ∈ detourRequest.turns (detourRequest.root detour)
        (Solution.clean detour (detourRequest.root detour)).2, t.isUpToDate = false := by
    decide +kernel
  obtain ⟨hclean, hapart, hnone⟩ := hfacts
  refine (checksAll_iff detour detourRequest (by decide) [] _ (clean_eq hclean)
    hapart).2 fun t ht hleft => ?_
  have hupToDate := hleft.isUpToDate
  rw [hnone t ht] at hupToDate
  cases hupToDate

/-- **A run may pass over a project**: the record of the first project is out of reach when the
solution is cleaned, and in reach when its turn comes. -/
theorem not_checksAll_detourAgain : ∃ removed cleaned,
    detourRequest.project.isAbsolute = true ∧
    Solution.clean detourAgain (detourRequest.root detourAgain) = (.ok removed, cleaned) ∧
    Turn.RecordsApart (detourRequest.turns (detourRequest.root detourAgain) cleaned)
      (detourRequest.run detourAgain).2 ∧
    ¬ ChecksAll detourAgain detourRequest cleaned := by
  have hfacts : (Solution.clean detourAgain (detourRequest.root detourAgain)).1 = .ok [] ∧
      Turn.RecordsApart (detourRequest.turns (detourRequest.root detourAgain)
        (Solution.clean detourAgain (detourRequest.root detourAgain)).2)
        (detourRequest.run detourAgain).2 ∧
      ∃ t ∈ detourRequest.turns (detourRequest.root detourAgain)
        (Solution.clean detourAgain (detourRequest.root detourAgain)).2,
        t.isBlocked = false ∧ t.isUpToDate = true := by
    decide +kernel
  obtain ⟨hclean, hapart, t, ht, hstatus⟩ := hfacts
  refine ⟨[], _, by decide, clean_eq hclean, hapart, fun hall => ?_⟩
  exact hall.nonePassedOver t ht ((t.status?_eq_upToDate _).2 hstatus)

end SolutionRequest

end Conformance
