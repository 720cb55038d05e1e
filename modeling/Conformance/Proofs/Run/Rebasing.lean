import Conformance.Proofs.Project.Locating
import Conformance.Proofs.Project.Showing
import Conformance.Proofs.Solution.Failure
import Conformance.Proofs.Solution.Leaving
import Conformance.Proofs.Solution.Leftover
/-!
# Runs from other directories

The directory of the caller has one part in a run over a solution: the places of diagnostics are
shown as seen from there.  So two runs that differ in it alone go the same way, turn by turn, and
what they say differs in the paths only.  And each path leads, from the directory it is shown from,
to where the other leads.
-/
namespace Conformance

open Solution (keyOf projects)

namespace Diagnostic

def pathless (x : Diagnostic) : Diagnostic :=
  { x with location := x.location.map fun l => { l with path := .here } }

/-- Two diagnostics say the same, and their paths lead to the same place, each from a directory of
its own. -/
structure Agrees (cwd cwd' : Path) (x x' : Diagnostic) : Prop where
  same : x.pathless = x'.pathless
  place : ∀ l l', x.location = some l → x'.location = some l' →
    (cwd.join l.path.toPath).normalize = (cwd'.join l'.path.toPath).normalize

end Diagnostic

open Diagnostic (Agrees)

namespace SolutionRequest

/-! ## Diagnostics -/

@[simp] theorem pathless_rebase (cwd dir : Path) (x : Diagnostic) :
    (rebase cwd dir x).pathless = x.pathless := by
  cases h : x.location <;> simp [rebase, Diagnostic.pathless, h]

theorem backslash_not_mem_join {p q : Path} (hp : '\\' ∉ p.chars) (hq : '\\' ∉ q.chars) :
    '\\' ∉ (p.join q).chars := by
  unfold Path.join
  split
  · exact hq
  · split <;> simp [hp, hq]

/-- **A diagnostic of a project is shown alike from any two directories.** -/
theorem agrees_rebase {cwd cwd' dir : Path} (hcwd : cwd.isAbsolute = true)
    (hcwd' : cwd'.isAbsolute = true) (hdir : dir.isAbsolute = true) (hslash : '\\' ∉ dir.chars)
    {x : Diagnostic} (hx : x.IsPlain) : Agrees cwd cwd' (rebase cwd dir x) (rebase cwd' dir x) := by
  refine ⟨by rw [pathless_rebase, pathless_rebase], fun l l' hl hl' => ?_⟩
  obtain ⟨m, hm, rfl⟩ := Option.map_eq_some_iff.1 hl
  obtain ⟨m', hm', rfl⟩ := Option.map_eq_some_iff.1 hl'
  cases hm.symm.trans hm'
  have hplace := Path.isAbsolute_join hdir m.path.toPath
  have hplain : '\\' ∉ (dir.join m.path.toPath).chars := backslash_not_mem_join hslash (hx m hm)
  rw [ProjectPath.normalize_join_relativeTo hcwd hplace hplain,
    ProjectPath.normalize_join_relativeTo hcwd' hplace hplain]

theorem forall₂_rebase {cwd cwd' dir : Path} (hcwd : cwd.isAbsolute = true)
    (hcwd' : cwd'.isAbsolute = true) (hdir : dir.isAbsolute = true) (hslash : '\\' ∉ dir.chars)
    {ds : List Diagnostic} (hds : ∀ x ∈ ds, x.IsPlain) :
    List.Forall₂ (Agrees cwd cwd') (ds.map (rebase cwd dir)) (ds.map (rebase cwd' dir)) := by
  rw [List.forall₂_map_left_iff, List.forall₂_map_right_iff, List.forall₂_same]
  exact fun x hx => agrees_rebase hcwd hcwd' hdir hslash (hds x hx)

/-! ## Builds -/

theorem matches_checkHook {cwd cwd' : Path} (hcwd : cwd.isAbsolute = true)
    (hcwd' : cwd'.isAbsolute = true) {p : Project} (hdir : p.dir.isAbsolute = true)
    (hslash : '\\' ∉ p.dir.chars) :
    Hook.Matches (List.Forall₂ (Agrees cwd cwd')) (checkHook cwd) (checkHook cwd') p := by
  intro loaded emitted found found' hfound
  unfold checkHook
  cases hcheck : p.check emitted (Project.loadProgram loaded p.dir (p.roots loaded)) with
  | error e => exact ⟨_, found, found', rfl, rfl, hfound⟩
  | ok ds =>
    have hds := forall₂_rebase hcwd hcwd' hdir hslash (Project.isPlain_of_check hcheck)
    exact ⟨_, _, _, rfl, rfl, List.rel_append hfound hds⟩

theorem outcome_of_buildAll {σ ε : Type} {hook : Hook σ ε} {ps : List Project} {d d' : Disk}
    {gathered gathered' : σ} {outcomes : List ProjectOutcome}
    (h : Solution.buildAll hook [] d gathered ps = (.ok outcomes, d', gathered')) :
    ∀ o ∈ outcomes, (∃ p ∈ ps, o.dir = p.dir) ∧ ∀ x ∈ o.diagnostics, x.IsPlain := by
  intro o ho
  have hmem : some o ∈ outcomes.map some := List.mem_map.2 ⟨o, ho, rfl⟩
  rw [(Solution.buildAll_ok hook h).2, List.map_nil, List.nil_append] at hmem
  obtain ⟨t, ht, hresult⟩ := List.mem_map.1 hmem
  have hproject := Solution.project_mem_of_turn ht
  have hends := t.result_ends hook
  generalize t.result hook = r at hends hresult
  cases hends with
  | skipped _ =>
    cases hresult
    exact ⟨⟨_, hproject, rfl⟩, fun x hx => by cases hx⟩
  | upToDate _ _ =>
    cases hresult
    exact ⟨⟨_, hproject, rfl⟩, fun x hx => by cases hx⟩
  | overflowing _ _ _ => cases hresult
  | faulty _ _ hknown _ =>
    cases hresult
    exact ⟨⟨_, hproject, rfl⟩, fun x hx => Project.isPlain_of_mem_preEmit hknown hx⟩
  | unwritten _ _ _ _ =>
    cases hresult
    exact ⟨⟨_, hproject, rfl⟩, fun x hx => Project.isPlain_of_mem_emit hx⟩
  | refused _ _ => cases hresult
  | unrecorded _ _ _ => cases hresult
  | built _ _ _ =>
    cases hresult
    exact ⟨⟨_, hproject, rfl⟩, fun x hx => by cases hx⟩

/-! ## Runs -/

/-- Two runs end the same way: with the same error, or with outcomes that agree from two
directories. -/
inductive EndAlike (cwd cwd' : Path) :
    Except SolutionRunError Outcome → Except SolutionRunError Outcome → Prop
  | error (e : SolutionRunError) : EndAlike cwd cwd' (.error e) (.error e)
  | ok {o o' : Outcome} : o.buildFailed = o'.buildFailed →
      List.Forall₂ (Agrees cwd cwd') o.diagnostics o'.diagnostics →
      EndAlike cwd cwd' (.ok o) (.ok o')

theorem endAlike_outcomeOf {cwd cwd' : Path} {outcomes : List ProjectOutcome}
    {found found' : List Diagnostic} (hfound : List.Forall₂ (Agrees cwd cwd') found found')
    (houtcomes : ∀ o ∈ outcomes, List.Forall₂ (Agrees cwd cwd')
      (o.diagnostics.map (rebase cwd o.dir)) (o.diagnostics.map (rebase cwd' o.dir))) :
    EndAlike cwd cwd' (.ok (outcomeOf cwd outcomes found))
      (.ok (outcomeOf cwd' outcomes found')) := by
  unfold outcomeOf
  split
  · refine .ok rfl ?_
    simp only [Outcome.failed, List.flatMap]
    refine List.rel_flatten ?_
    rw [List.forall₂_map_left_iff, List.forall₂_map_right_iff, List.forall₂_same]
    exact houtcomes
  · exact .ok rfl hfound

theorem isAbsolute_dir {d : Disk} {root : Path} {names : List (List Char)}
    (hroot : root.IsCanonical names) {ps : List Project} (hps : projects d root = .ok ps)
    {p : Project} (hp : p ∈ ps) : p.dir.isAbsolute = true := by
  obtain ⟨-, hload, keyNames, hkey⟩ := (Solution.isOrder_of_projects hps).key ⟨names, hroot⟩ hp
  exact (Project.dir_of_canonical hload hkey).1.isAbsolute

/-- **The directory of the caller changes nothing but how places are shown.** Two runs over one
solution leave the same disk and end the same way: with the same error, or with diagnostics that
agree one by one, and whose paths lead to the same places. -/
theorem run_from_anywhere (d : Disk) (project cwd cwd' : Path)
    (hproject : project.isAbsolute = true) (hcwd : cwd.isAbsolute = true)
    (hcwd' : cwd'.isAbsolute = true)
    (hslash : ∀ ps, projects d (keyOf d project) = .ok ps → ∀ p ∈ ps, '\\' ∉ p.dir.chars) :
    (run d ⟨cwd, project⟩).2 = (run d ⟨cwd', project⟩).2 ∧
      EndAlike cwd cwd' (run d ⟨cwd, project⟩).1 (run d ⟨cwd', project⟩).1 := by
  obtain ⟨names, hroot⟩ := Solution.isCanonical_keyOf d hproject
  unfold run
  dsimp only
  rcases hclean : Solution.clean d (keyOf d project) with ⟨result, cleaned⟩
  cases result with
  | error e =>
    refine ⟨rfl, .ok rfl (.cons ⟨rfl, fun l l' hl => ?_⟩ .nil)⟩
    cases hl
  | ok removed =>
    dsimp only
    unfold Solution.build
    cases hps : projects cleaned (keyOf d project) with
    | error e => exact ⟨rfl, .error _⟩
    | ok ps =>
      -- cleaning leaves the projects that there were
      have hbefore := Solution.projects_of_shrinks (Solution.clean_ok hclean).1 hroot hps
      have hplain := hslash ps hbefore
      have habsolute : ∀ p ∈ ps, p.dir.isAbsolute = true := fun p hp => isAbsolute_dir hroot hps hp
      obtain ⟨r, after, found, found', hbuild, hbuild', hfound⟩ := Solution.buildAll_matches
        (fun p hp => matches_checkHook hcwd hcwd' (habsolute p hp) (hplain p hp)) [] cleaned
        (.nil : List.Forall₂ (Agrees cwd cwd') [] [])
      dsimp only
      rw [hbuild, hbuild']
      cases r with
      | error e => exact ⟨rfl, .error e⟩
      | ok outcomes =>
        refine ⟨rfl, endAlike_outcomeOf hfound fun o ho => ?_⟩
        obtain ⟨⟨p, hp, hdir⟩, hds⟩ := outcome_of_buildAll hbuild o ho
        rw [hdir]
        exact forall₂_rebase hcwd hcwd' (habsolute p hp) (hplain p hp) hds

def remarked : Disk where
  entries :=
    [([['p']], .dir), ([['p'], "tsconfig.json".toList], .file "\x7b\"files\":[\"t\"]\x7d".toUTF8),
      ([['p'], ['t']], .file ("\x7b\"fileName\":\"a.ts\",\"diagnostics\":" ++
        "[\x7b\"code\":7,\"message\":\"m\",\"start\":0\x7d]\x7d").toUTF8)]
  here := []

def remarkedPaths (cwd : String) : Option (List (Option String)) :=
  (run remarked ⟨.ofString cwd, .ofString "/p"⟩).1.toOption.map
    (·.diagnostics.map (·.location.map (·.path.text)))

theorem run_from_anywhere_remarked :
    remarkedPaths "/" = some [some "p/a.ts"] ∧ remarkedPaths "/q/../p/./" = some [some "/p/a.ts"] ∧
    EndAlike (.ofString "/") (.ofString "/q/../p/./")
      (run remarked ⟨.ofString "/", .ofString "/p"⟩).1
      (run remarked ⟨.ofString "/q/../p/./", .ofString "/p"⟩).1 := by
  refine ⟨by decide +kernel, by decide +kernel, ?_⟩
  refine (run_from_anywhere remarked (.ofString "/p") (.ofString "/") (.ofString "/q/../p/./")
    (by decide) (by decide) (by decide) fun ps hps p hp => ?_).2
  have hplain : (projects remarked (keyOf remarked (.ofString "/p"))).toOption.all
      (·.all fun p => !p.dir.chars.contains '\\') = true := by
    decide +kernel
  rw [hps] at hplain
  simpa using List.all_eq_true.1 hplain p hp

end SolutionRequest

end Conformance
