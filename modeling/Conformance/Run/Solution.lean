import Conformance.Run.Report
import Conformance.Solution.Build
/-!
# A run over a solution

A project and all that it needs are built and checked.  A build passes over
projects that are up to date, and a check must see every file, so what earlier
builds left is removed first.  The check is the hook of the build: it sees each
project right after it is emitted.

When the build fails, only that is reported.  What the rules found so far would be
a part of the truth.
-/
namespace Conformance

structure SolutionRequest where
  /-- The directory of the caller. -/
  cwd : Path
  /-- The project: a directory or a project file. -/
  project : Path
  deriving DecidableEq, Repr

/-- A solution has one root; so many projects were named instead. -/
structure TooManyProjects where
  count : Nat
  deriving DecidableEq, Repr

def TooManyProjects.message (_ : TooManyProjects) : String :=
  "build mode supports exactly one project"

/-- The error of a check that is the hook of a build. -/
abbrev SolutionRunError := BuildError CheckError

namespace SolutionRequest

/-- The request that names some projects: at most one, or else the directory of the caller. -/
def ofProjects (cwd : Path) : List String → Except TooManyProjects SolutionRequest
  | [] => .ok ⟨cwd, cwd⟩
  | [project] => .ok ⟨cwd, cwd.join (.ofString project)⟩
  | projects => .error ⟨projects.length⟩

/-- A diagnostic of a project as seen from the directory of the caller. Its fingerprint stays. -/
def rebase (cwd dir : Path) (d : Diagnostic) : Diagnostic :=
  { d with location := d.location.map fun l =>
      { l with path := .relativeTo cwd (dir.join l.path.toPath) } }

/-- Checks each project after it is emitted, and gathers what is found. -/
def checkHook (cwd : Path) : Hook (List Diagnostic) CheckError := fun d p program found =>
  match p.check d program with
  | .error e => (.error e, found)
  | .ok ds => (.ok (), found ++ ds.map (rebase cwd p.dir))

/-- What a finished build comes to, with what the rules found in it. -/
def outcomeOf (cwd : Path) (outcomes : List ProjectOutcome) (found : List Diagnostic) : Outcome :=
  if Solution.hasFailed outcomes then
    .failed (outcomes.flatMap fun o => o.diagnostics.map (rebase cwd o.dir))
  else .ofDiagnostics found

/-- A run over a solution. A solution that cannot be cleaned is reported, and nothing is built. -/
def run (d : Disk) (r : SolutionRequest) : Except SolutionRunError Outcome × Disk :=
  let root := Solution.keyOf d r.project
  match Solution.clean d root with
  | (.error e, d) =>
    (.ok (.ofDiagnostics [.globalError Diagnostic.configCode e.message]), d)
  | (.ok _, d) => match Solution.build (checkHook r.cwd) d [] root with
    | (.error e, d, _) => (.error e, d)
    | (.ok outcomes, d, found) => (.ok (outcomeOf r.cwd outcomes found), d)

end SolutionRequest

end Conformance
