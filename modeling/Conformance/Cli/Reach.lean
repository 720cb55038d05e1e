import Conformance.Cli.Arguments
import Conformance.Run.Direct
import Conformance.Run.Solution
/-!
# What a call looks at

A call works on a copy of the disk, and the copy should hold what the call can ask
for and not the whole machine.  This module says what that is: the paths that the
arguments name, and for every project among them the directories and files that
its project file names.  With each project that is copied more become known, so
the caller asks again until nothing is new.
-/
namespace Conformance

def Project.looksAt (p : Project) : List Path :=
  [p.dir, p.outDir, p.buildInfoPath] ++ p.exemptionConfig.toList ++ p.files.getD [] ++ p.references

namespace Command

def namedProjects (cwd : Path) (mode : Mode) (settings : Arguments.Settings) : List Path :=
  match mode with
  | .build => match settings.names with
    | [] => [cwd]
    | names => names.map fun name => cwd.join (.ofString name)
  | .direct => [(settings.project.map fun p => cwd.join (.ofString p)).getD cwd]

def namedPaths (cwd : Path) (settings : Arguments.Settings) : List Path :=
  (settings.names ++ settings.reportOut.toList).map fun name => cwd.join (.ofString name)

/-- The paths that a call starts from: first its projects, then other paths. -/
def startsFrom (cwd : Path) (arguments : List String) : List Path × List Path :=
  let (mode, arguments) := Arguments.selectMode arguments
  match Arguments.read mode arguments with
  | .error _ => ([], [])
  | .ok settings => (namedProjects cwd mode settings, namedPaths cwd settings)

/-- What a run looks at for the projects that some paths name, and the projects that those need. -/
def reach (d : Disk) (projects : List Path) : List Path × List Path :=
  let loaded := projects.filterMap fun path => (Project.load d (Project.locate d path)).toOption
  (projects ++ loaded.flatMap Project.looksAt, loaded.flatMap (·.references))

end Command

end Conformance
