import Std.Time.DateTime.Timestamp
import Conformance.Cli.Command
import Conformance.Cli.Help
import Conformance.Cli.Reach
import Conformance.Disk.Change
/-!
# The program

Copies what a call looks at into a `Disk`, answers the call on the copy, and
carries the changes over to the machine.  All decisions are made on the copy.
-/
namespace Conformance.Machine

def textOf (place : Place) : String := String.ofList ('/' :: Text.joinWith '/' place)

/-- Copies a directory and all below it. -/
partial def copyTree (d : Disk) (place : Place) : IO Disk := do
  let names ← ((← IO.currentDir) / textOf place).readDir
  names.foldlM (fun d entry => do
    let place := place ++ [entry.fileName.toList]
    match ← (entry.path.metadata).toBaseIO with
    | .error _ => return d
    | .ok data =>
      if data.type == .dir then copyTree (d.put place .dir) place
      else match ← (IO.FS.readBinFile entry.path).toBaseIO with
        | .error _ => return d
        | .ok bytes => return d.put place (.file bytes)) d

/-- Copies what is at a place, with all below it if it is a directory that is `whole`. -/
def copyPlace (d : Disk) (place : Place) (whole : Bool) : IO Disk := do
  let path := (← IO.currentDir) / textOf place
  match ← (path.metadata).toBaseIO with
  | .error _ => return d
  | .ok data =>
    if data.type == .dir then
      let d := if place.isEmpty then d else d.put place .dir
      if whole then copyTree d place else return d
    else match ← (IO.FS.readBinFile path).toBaseIO with
      | .error _ => return d
      | .ok bytes => return d.put place (.file bytes)

/-- Copies what a path leads to, with all that stands on the way. -/
def copyPath (d : Disk) (p : Path) : IO Disk := do
  let place := Path.resolvedNames true p.components
  let d ← (List.range place.length).foldlM (fun d n => copyPlace d (place.take n) false) d
  copyPlace d place true

/-- Copies what some projects lead to, until nothing is new. -/
partial def copyProjects (d : Disk) (seen projects : List Path) : IO Disk := do
  let d ← projects.foldlM copyPath d
  let (paths, needed) := Command.reach d projects
  let d ← (paths.filter fun p => !seen.contains p).foldlM copyPath d
  let fresh := needed.filter fun p => !seen.contains p && !projects.contains p
  if fresh.isEmpty then return d else copyProjects d (seen ++ projects ++ paths) fresh

/-- Carries a change over to the machine. -/
def carryOut : Change → IO Unit
  | .makeDir place => IO.FS.createDirAll (textOf place)
  | .write place bytes => IO.FS.writeBinFile (textOf place) bytes
  | .remove place => IO.FS.removeFile (textOf place)

def now : IO Timestamp := do
  let time ← Std.Time.Timestamp.now
  return ⟨time.val.second.val, time.val.nano.val.toNat⟩

def answer (arguments : List String) : IO Command.Response := do
  let started ← now
  let cwd : Path := .ofString (toString (← IO.currentDir))
  let (projects, others) := Command.startsFrom cwd arguments
  let d ← copyPath { Disk.empty with here := Path.resolvedNames true cwd.components } cwd
  let d ← copyProjects (← others.foldlM copyPath d) [] projects
  let (answer, after) := Command.call d cwd ⟨started, ← now⟩ arguments
  (d.changes after).forM carryOut
  match answer with
  | .help mode => return { code := 0, output := Command.helpText mode }
  | .usage mode => return { code := 1, errors := Command.usageText mode }
  | .ran response => return response

end Conformance.Machine

/-- Answers a call and leaves with its exit code. -/
def main (arguments : List String) : IO UInt32 := do
  let response ← Conformance.Machine.answer arguments
  (← IO.getStdout).putStr response.output
  (← IO.getStderr).putStr response.errors
  return response.code.toUInt32
