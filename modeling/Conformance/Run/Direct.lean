import Conformance.Project.Emit
import Conformance.Project.Load
import Conformance.Run.Report
/-!
# A direct run

One project, or some root files: everything is checked, and then emitted.  The
project can ask that nothing be emitted when there is anything to say.
-/
namespace Conformance

structure DirectRequest where
  /-- The directory of the caller. -/
  cwd : Path
  /-- Root files. If there are any, no project is loaded. -/
  files : List Path := []
  /-- The project: a directory or a project file. Without one, the directory of the caller. -/
  project : Option Path := none
  deriving DecidableEq, Repr

namespace DirectRequest

def projectPath (r : DirectRequest) : Path := (r.project.map r.cwd.join).getD r.cwd

def settle (d : Disk) (r : DirectRequest) : Except ConfigError Project :=
  if r.files.isEmpty then Project.load d (Project.locate d r.projectPath)
  else .ok (Project.ofRoots r.cwd r.files)

def runProject (d : Disk) (p : Project) : Except CheckError Outcome × Disk :=
  let program := Project.loadProgram d p.dir (p.roots d)
  match p.check d program with
  | .error e => (.error e, d)
  | .ok found =>
    let (emitted, d) := p.emit d program (p.noEmitOnError && !found.isEmpty)
    (.ok (.ofDiagnostics (found ++ emitted.diagnostics)), d)

/-- A direct run. A project that cannot be loaded is reported, and nothing is checked. -/
def run (d : Disk) (r : DirectRequest) : Except CheckError Outcome × Disk :=
  match r.settle d with
  | .error e => (.ok (.ofDiagnostics [.globalError Diagnostic.configCode e.message]), d)
  | .ok p => runProject d p

end DirectRequest

end Conformance
