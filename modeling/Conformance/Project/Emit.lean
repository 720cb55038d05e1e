import Conformance.Disk.Access
import Conformance.Project.Basic
/-!
# Emitting

The compiled text of each file goes to its place below the output directory.  An
output that cannot be written leaves a diagnostic, and the others are written all
the same.
-/
namespace Conformance

structure Emitted where
  /-- The outputs that were written, in the order of the program's files. -/
  written : List Path := []
  diagnostics : List Diagnostic := []
  /-- Was nothing attempted? -/
  skipped : Bool := false
  deriving DecidableEq, Repr

namespace Project

def emitFailure (p : Project) (output : Path) (e : DiskError) : Diagnostic :=
  .globalError Diagnostic.emitCode ("Could not write file '" ++
    (ProjectPath.relativeTo p.dir output).text ++ "': " ++ e.message ++ ".")

def emitFiles (p : Project) : Disk → List SourceFile → Emitted × Disk
  | d, [] => ({}, d)
  | d, f :: fs => match p.outputPath f, f.output with
    | some path, some text => match d.save path text with
      | (.ok (), d) =>
        let (rest, d) := p.emitFiles d fs
        ({ rest with written := path :: rest.written }, d)
      | (.error e, d) =>
        let (rest, d) := p.emitFiles d fs
        ({ rest with diagnostics := p.emitFailure path e.refusal :: rest.diagnostics }, d)
    | _, _ => p.emitFiles d fs

/-- Writes the outputs of a program, unless the project or the caller forbids it. -/
def emit (d : Disk) (p : Project) (program : Program) (forbidden : Bool) : Emitted × Disk :=
  if p.noEmit || forbidden then ({ skipped := true }, d) else p.emitFiles d program.files

end Project

end Conformance
