import Conformance.Project.BuildInfo
import Conformance.Project.Emit
import Conformance.Solution.Order
/-!
# Building a solution

The projects of a solution are built in order.  One whose record is up to date is
left as it is.  One that needs a failed project is skipped, and counts as failed
for those that need it.  One with errors, or with an output that could not be
written, has failed.  Every other project is emitted, handed to a hook, and gets
its record.

The hook stands for whatever is to be done with a project once it is emitted.  It
may look at the disk and gather something of its own; when it fails, the whole
build ends.
-/
namespace Conformance

inductive ProjectStatus where
  | built
  | upToDate
  | failed
  /-- Not tried, because a project that it needs has failed. -/
  | skipped
  deriving DecidableEq, Repr

/-- Has a project nothing to offer to those that need it? -/
def ProjectStatus.isBad : ProjectStatus → Bool
  | .failed => true
  | .skipped => true
  | _ => false

structure ProjectOutcome where
  key : Path
  /-- The directory of the project. -/
  dir : Path
  status : ProjectStatus
  diagnostics : List Diagnostic
  deriving DecidableEq, Repr

inductive BuildError (ε : Type) where
  | order (error : SolutionError)
  | hook (error : ε)
  | record (error : Disk.SaveError)
  | overflow (error : Text.Overflow)
  deriving DecidableEq, Repr

def BuildError.message {ε : Type} (hookMessage : ε → String) : BuildError ε → String
  | .order e => e.message
  | .hook e => hookMessage e
  | .record e => BuildInfo.saveMessage e
  | .overflow e => e.message

inductive CleanError where
  | order (error : SolutionError)
  | remove (error : RemoveError)
  deriving DecidableEq, Repr

def CleanError.message : CleanError → String
  | .order e => e.message
  | .remove e => e.message

/-- What is done with a project once it is emitted. It gathers a `σ`, also when it fails. -/
abbrev Hook (σ ε : Type) := Disk → Project → Program → σ → Except ε Unit × σ

namespace Project

/-- The key of a project: its project file, dots resolved. -/
def key (p : Project) : Path := (p.configPath.map Path.normalize).getD p.dir

def build {σ ε : Type} (hook : Hook σ ε) (d : Disk) (gathered : σ) (p : Project) :
    Except (BuildError ε) (ProjectStatus × List Diagnostic) × Disk × σ :=
  let roots := p.roots d
  let signature := p.signature d roots
  if p.isUpToDate d signature then (.ok (.upToDate, []), d, gathered)
  else
    let program := loadProgram d p.dir roots
    match program.preEmit with
    | .error e => (.error (.overflow e), d, gathered)
    | .ok known =>
      if Diagnostic.anyError known then (.ok (.failed, known), d, gathered)
      else match p.emit d program false with
        | (emitted, d) =>
          if emitted.diagnostics.isEmpty then
            match hook d p program gathered with
            | (.error e, gathered) => (.error (.hook e), d, gathered)
            | (.ok (), gathered) =>
              match BuildInfo.write d p (.of p signature emitted.written) with
              | (.error e, d) => (.error (.record e), d, gathered)
              | (.ok (), d) => (.ok (.built, []), d, gathered)
          else (.ok (.failed, emitted.diagnostics), d, gathered)

def outcome (p : Project) (status : ProjectStatus) (ds : List Diagnostic) : ProjectOutcome :=
  ⟨p.key, p.dir, status, ds⟩

end Project

namespace Solution

/-- The keys of the projects that have nothing to offer. -/
def badKeys (outcomes : List ProjectOutcome) : List Path :=
  (outcomes.filter (·.status.isBad)).map (·.key)

def isBlocked (d : Disk) (done : List ProjectOutcome) (p : Project) : Bool :=
  p.references.any fun r => (badKeys done).contains (keyOf d r)

/-- Builds projects one after the other, behind those that are done. -/
def buildAll {σ ε : Type} (hook : Hook σ ε) :
    List ProjectOutcome → Disk → σ → List Project →
    Except (BuildError ε) (List ProjectOutcome) × Disk × σ
  | done, d, gathered, [] => (.ok done, d, gathered)
  | done, d, gathered, p :: ps =>
    if isBlocked d done p then buildAll hook (done ++ [p.outcome .skipped []]) d gathered ps
    else match p.build hook d gathered with
      | (.error e, d, gathered) => (.error e, d, gathered)
      | (.ok (status, ds), d, gathered) =>
        buildAll hook (done ++ [p.outcome status ds]) d gathered ps

def build {σ ε : Type} (hook : Hook σ ε) (d : Disk) (gathered : σ) (root : Path) :
    Except (BuildError ε) (List ProjectOutcome) × Disk × σ :=
  match projects d root with
  | .error e => (.error (.order e), d, gathered)
  | .ok ps => buildAll hook [] d gathered ps

def hasFailed (outcomes : List ProjectOutcome) : Bool := outcomes.any (·.status.isBad)

/-! ## Cleaning -/

def cleanAll : Disk → List Project → Except CleanError (List Path) × Disk
  | d, [] => (.ok [], d)
  | d, p :: ps => match p.clean d with
    | (.error e, d) => (.error (.remove e), d)
    | (.ok removed, d) => match cleanAll d ps with
      | (.error e, d) => (.error e, d)
      | (.ok more, d) => (.ok (removed ++ more), d)

/-- Removes what builds of a solution left. The result is what was there. -/
def clean (d : Disk) (root : Path) : Except CleanError (List Path) × Disk :=
  match projects d root with
  | .error e => (.error (.order e), d)
  | .ok ps => cleanAll d ps

end Solution

end Conformance
