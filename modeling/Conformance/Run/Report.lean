import Conformance.Disk.Access
import Conformance.Json.Printer
import Conformance.Render
import Conformance.Timestamp
/-!
# Reports

What a run came to.  An `Outcome` is what there is to say and whether the build
itself failed; the exit code follows from it, and is zero only if there is nothing
to say.  A `RunReport` adds how and when the run was done, and is written as JSON.
-/
namespace Conformance

inductive Mode where
  /-- One project, or root files. -/
  | direct
  /-- A project and all it needs. -/
  | build
  deriving DecidableEq, Repr

def Mode.name : Mode → String
  | .direct => "direct"
  | .build => "build"

structure Outcome where
  diagnostics : List Diagnostic
  /-- Did the build fail before a rule could look? -/
  buildFailed : Bool
  deriving DecidableEq, Repr

namespace Outcome

def ofDiagnostics (ds : List Diagnostic) : Outcome := ⟨ds, false⟩

def failed (ds : List Diagnostic) : Outcome := ⟨ds, true⟩

def failedNotice : String := "Build failed; conformance checks were not run."

/-- The remark under the diagnostics of a run. -/
def notice (o : Outcome) : Option String := if o.buildFailed then some failedNotice else none

/-- The exit code of a run: zero if the build did not fail and there is nothing to say. -/
def exitCode (o : Outcome) : Nat := if o.buildFailed || !o.diagnostics.isEmpty then 1 else 0

/-- **The exit code is zero exactly when nothing was found.** -/
theorem exitCode_eq_zero_iff (o : Outcome) :
    o.exitCode = 0 ↔ o.buildFailed = false ∧ o.diagnostics = [] := by
  cases o with
  | mk ds failed => cases failed <;> cases ds <;> simp [exitCode]

end Outcome

structure RunReport where
  mode : Mode
  started : Timestamp
  finished : Timestamp
  outcome : Outcome
  deriving DecidableEq, Repr

namespace RunReport

def schemaName : String := "tsconform.report.v1"

def tool : Json := .object [("name", .string toolName), ("version", .string toolVersion)]

def headMembers : List (String × Json) := [("schema", .string schemaName), ("tool", tool)]

def bodyMembers (r : RunReport) : List (String × Json) :=
  [("mode", .string r.mode.name), ("exit_code", .nat r.outcome.exitCode)] ++
    Diagnostic.optionalMember "notice" .string r.outcome.notice ++
    [("diagnostics", .array (r.outcome.diagnostics.map Diagnostic.toJson)),
      ("data", (Counts.of r.outcome.diagnostics).toJson)]

/-- A report as a JSON value. One whose times cannot be written is none. -/
def toJson? (r : RunReport) : Option Json :=
  match r.started.text?, r.finished.text? with
  | some started, some finished =>
    some (.object (headMembers ++ [("started_at", .string started),
      ("finished_at", .string finished)] ++ r.bodyMembers))
  | _, _ => none

def text? (r : RunReport) : Option String := r.toJson?.map fun j => String.ofList j.pretty

end RunReport

inductive ReportError where
  | save (error : Disk.SaveError)
  /-- A year has no text. -/
  | unwritableYear
  deriving DecidableEq, Repr

def ReportError.message : ReportError → String
  | .save (.makeDir dir e) => "create directory: " ++ dir.text ++ ": " ++ e.message
  | .save (.write path e) => "write report: " ++ path.text ++ ": " ++ e.message
  | .unwritableYear =>
    "serialize report: The year component cannot be formatted into the requested format."

namespace RunReport

/-- Saves a report as a file. The directories it needs are made before it is written. -/
def save (d : Disk) (r : RunReport) (path : Path) : Except ReportError Unit × Disk :=
  match r.text? with
  | some text => match d.save path text with
    | (.error e, d) => (.error (.save e), d)
    | (.ok (), d) => (.ok (), d)
  | none => match d.ensureParent path with
    | (.error e, d) => (.error (.save e), d)
    | (.ok (), d) => (.error .unwritableYear, d)

end RunReport

end Conformance
