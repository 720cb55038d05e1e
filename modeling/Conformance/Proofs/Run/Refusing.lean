import Conformance.Proofs.Solution.Order
import Conformance.Run.Solution
/-!
# Runs over a solution with a fault

A run over a solution removes files before it builds any.  It does neither unless the whole solution
has an order: the order is settled first, and a fault anywhere in what the root needs leaves none.
Such a run says what is wrong, in one diagnostic, and the disk stays as it is, also where projects
came before the fault that a build had left something of.
-/
namespace Conformance

namespace Solution

/-- Something that a root needs has no project, or needs itself. -/
def IsFaulty (d : Disk) (root : Path) : Prop :=
  ∃ key, Reaches d root key ∧ (¬ Loads d key ∨ OnCircle d key)

theorem IsOrder.loads {d : Disk} {root key : Path} {ps : List Project} (h : IsOrder d root ps)
    (hkey : some key ∈ ps.map (·.configPath)) : Loads d key := by
  obtain ⟨p, hp, hpath⟩ := List.mem_map.1 hkey
  obtain ⟨k, hk, hload⟩ := h.loaded p hp
  have hkk := Option.some_inj.1 (hk.symm.trans hpath)
  subst hkk
  exact ⟨p, hload⟩

/-- **A fault leaves no order**, at whatever depth it is. -/
theorem projects_of_isFaulty {d : Disk} {root : Path} (h : IsFaulty d root) :
    ∃ e, projects d root = .error e := by
  obtain ⟨key, hreach, hbad⟩ := h
  cases hps : projects d root with
  | error e => exact ⟨e, rfl⟩
  | ok ps =>
    have horder := isOrder_of_projects hps
    have hkey := (horder.whole key).2 hreach
    rcases hbad with hloads | hcircle
    · exact absurd (horder.loads hkey) hloads
    · have hsettled := (visit_ok .nil hps).settled
      exact absurd hcircle (hsettled.not_onCircle key (isListed_iff.2 hkey))

end Solution

namespace SolutionRequest

open Solution (IsFaulty keyOf projects)

theorem run_of_projects_error {d : Disk} {r : SolutionRequest} {e : SolutionError}
    (h : projects d (keyOf d r.project) = .error e) :
    r.run d = (.ok (.ofDiagnostics [.globalError Diagnostic.configCode e.message]), d) := by
  have hclean : Solution.clean d (keyOf d r.project) = (.error (.order e), d) := by
    unfold Solution.clean
    rw [h]
  unfold run
  dsimp only
  rw [hclean]
  rfl

/-- **A fault anywhere in a solution is all that is said of it, and nothing is touched.** The run
ends well, with one diagnostic that has no place and the exit code 1, and the disk is the one it
was. -/
theorem run_of_isFaulty (d : Disk) (r : SolutionRequest) (h : IsFaulty d (keyOf d r.project)) :
    ∃ e o x, projects d (keyOf d r.project) = .error e ∧ r.run d = (.ok o, d) ∧
      o.diagnostics = [x] ∧ x.code = Diagnostic.configCode ∧ x.message = e.message ∧
      x.location = none ∧ o.exitCode = 1 := by
  obtain ⟨e, he⟩ := Solution.projects_of_isFaulty h
  exact ⟨e, _, _, he, run_of_projects_error he, rfl, rfl, rfl, rfl, rfl⟩

/-- A project that needs one which was built before, and one that needs a third with a broken
file. -/
def undermined : Disk where
  entries :=
    [([['s']], .dir), ([['s'], "tsconfig.json".toList],
        .file ("\x7b\"references\":[\x7b\"path\":\"../a\"\x7d," ++
          "\x7b\"path\":\"../b\"\x7d]\x7d").toUTF8),
      ([['a']], .dir), ([['a'], "tsconfig.json".toList], .file "\x7b\x7d".toUTF8),
      ([['a'], "tsconfig.tsbuildinfo".toList], .file "\x7b\x7d".toUTF8),
      ([['b']], .dir), ([['b'], "tsconfig.json".toList],
        .file "\x7b\"references\":[\x7b\"path\":\"../c\"\x7d]\x7d".toUTF8),
      ([['c']], .dir), ([['c'], "tsconfig.json".toList], .file "\x7b".toUTF8)]
  here := []

theorem needs_of_load {d : Disk} {key key' : Path}
    (h : (Project.load d key).toOption.any (fun p => key' ∈ p.references.map (keyOf d)) = true) :
    Solution.Needs d key key' := by
  cases hload : Project.load d key with
  | error e =>
    rw [hload] at h
    cases h
  | ok p =>
    rw [hload] at h
    exact ⟨p, hload, of_decide_eq_true h⟩

theorem run_of_isFaulty_undermined :
    IsFaulty undermined (keyOf undermined (.ofString "/s")) ∧
    ∃ o, run undermined ⟨.ofString "/", .ofString "/s"⟩ = (.ok o, undermined) ∧ o.exitCode = 1 := by
  have hfirst : Solution.Needs undermined (keyOf undermined (.ofString "/s"))
      (.ofString "/b/tsconfig.json") := needs_of_load (by decide +kernel)
  have hsecond : Solution.Needs undermined (.ofString "/b/tsconfig.json")
      (.ofString "/c/tsconfig.json") := needs_of_load (by decide +kernel)
  have hloads : ¬ Solution.Loads undermined (.ofString "/c/tsconfig.json") := by
    rintro ⟨p, hp⟩
    have hnone : (Project.load undermined (.ofString "/c/tsconfig.json")).toOption = none := by
      decide +kernel
    rw [hp] at hnone
    cases hnone
  have hfaulty : IsFaulty undermined (keyOf undermined (.ofString "/s")) :=
    ⟨_, .tail (.single hfirst) hsecond, .inl hloads⟩
  obtain ⟨e, o, x, -, hrun, -, -, -, -, hexit⟩ :=
    run_of_isFaulty undermined ⟨.ofString "/", .ofString "/s"⟩ hfaulty
  exact ⟨hfaulty, o, hrun, hexit⟩

end SolutionRequest

end Conformance
