import Conformance.Cli.Arguments
import Conformance.Run.Direct
import Conformance.Run.Solution
/-!
# The command

What a call of the tool answers, as a function of its arguments, the disk and the
clock.  Diagnostics go to the output and are part of a good run; a defect that no
run can go on with goes to the error output.
-/
namespace Conformance

namespace Command

structure Response where
  code : Nat
  output : String := ""
  errors : String := ""
  deriving DecidableEq, Repr

/-- The answer to a call: a text about the tool itself, or what a run wrote. -/
inductive Answer where
  /-- How to call the tool. -/
  | help (mode : Mode)
  /-- The arguments have a mistake. -/
  | usage (mode : Mode)
  | ran (response : Response)
  deriving DecidableEq, Repr

structure Clock where
  started : Timestamp
  finished : Timestamp
  deriving DecidableEq, Repr

def defect (message : String) : Response :=
  { code := 1, errors := toolName ++ " error: " ++ message ++ "\n" }

/-- The response when a line or a column that is to be shown has outgrown a word. -/
def overflowed (o : Text.Overflow) : Response := { code := 101, errors := o.message ++ "\n" }

def printed (format : Arguments.Format) (o : Outcome) : String :=
  match format with
  | .text => Diagnostic.renderText o.diagnostics ++ (o.notice.map (· ++ "\n")).getD ""
  | .github =>
    String.join ((Diagnostic.renderAnnotations o.diagnostics ++
      (o.notice.map ("::error::" ++ ·)).toList).map (· ++ "\n"))

/-- Shows an outcome, and saves its report if that is asked for. -/
def respond (d : Disk) (settings : Arguments.Settings) (r : RunReport) : Response × Disk :=
  let output := printed (settings.format.getD .text) r.outcome
  match settings.reportOut with
  | none => ({ code := r.outcome.exitCode, output := output }, d)
  | some path => match r.save d (.ofString path) with
    | (.ok (), d) => ({ code := r.outcome.exitCode, output := output }, d)
    | (.error e, d) =>
      ({ defect ("write report json: " ++ e.message) with output := output }, d)

def direct (d : Disk) (cwd : Path) (clock : Clock) (settings : Arguments.Settings) :
    Response × Disk :=
  if settings.listRules then ({ code := 0, output := Rule.listing }, d)
  else
    let request : DirectRequest :=
      { cwd := cwd, files := settings.names.map .ofString,
        project := settings.project.map .ofString }
    match request.run d with
    | (.error ⟨_, .overflow o⟩, d) => (overflowed o, d)
    | (.error e, d) => (defect e.message, d)
    | (.ok outcome, d) => respond d settings ⟨.direct, clock.started, clock.finished, outcome⟩

def build (d : Disk) (cwd : Path) (clock : Clock) (settings : Arguments.Settings) :
    Response × Disk :=
  match SolutionRequest.ofProjects cwd settings.names with
  | .error e => ({ code := 1, errors := toolName ++ ": " ++ e.message ++ "\n" }, d)
  | .ok request => match request.run d with
    | (.error (.overflow o), d) => (overflowed o, d)
    | (.error (.hook ⟨_, .overflow o⟩), d) => (overflowed o, d)
    | (.error e, d) => (defect (e.message CheckError.message), d)
    | (.ok outcome, d) => respond d settings ⟨.build, clock.started, clock.finished, outcome⟩

/-- What a call answers, and what it leaves on the disk. -/
def call (d : Disk) (cwd : Path) (clock : Clock) (arguments : List String) : Answer × Disk :=
  let (mode, arguments) := Arguments.selectMode arguments
  match Arguments.read mode arguments with
  | .error .help => (.help mode, d)
  | .error .version => (.ran { code := 0, output := toolName ++ " " ++ toolVersion ++ "\n" }, d)
  | .error .mistake => (.usage mode, d)
  | .ok settings =>
    let (response, d) := match mode with
      | .direct => direct d cwd clock settings
      | .build => build d cwd clock settings
    (.ran response, d)

end Command

end Conformance
