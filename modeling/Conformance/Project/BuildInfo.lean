import Conformance.Disk.Access
import Conformance.Hash.Sha256
import Conformance.Json.Schema
import Conformance.Json.Printer
import Conformance.Project.Basic
/-!
# Build records

A build leaves a record of what it was made of and of what it wrote.  What it was
made of is a signature: a digest of the version of this tool, the project file,
the exemption file, the names of the rules, and the root files with their paths.
A project is up to date when its record has the signature of today and everything
that was written is still there.

Cleaning removes what the record names and then the record itself.
-/
namespace Conformance

/-! ## Signatures -/

/-- What a build is made of. A file that cannot be read counts as empty. -/
structure BuildInputs where
  config : ByteArray
  exemptions : ByteArray
  /-- The names of the rules. -/
  rules : List String
  /-- The paths of the root files and what they hold. -/
  roots : List (Path × ByteArray)

namespace BuildInputs

/-- The bytes of a file between two zeros. -/
def fenced (bytes : ByteArray) : List UInt8 := 0 :: bytes.data.toList ++ [0]

def bytesOf (s : String) : List UInt8 := s.toUTF8.data.toList

/-- All that a build is made of as one run of bytes. -/
def stream (i : BuildInputs) : List UInt8 :=
  bytesOf toolVersion ++ fenced i.config ++ fenced i.exemptions ++
    i.rules.flatMap (fun name => bytesOf name ++ [0]) ++
    i.roots.flatMap fun root => bytesOf root.1.text ++ fenced root.2

def signature (i : BuildInputs) : String := Sha256.hexDigest i.stream

end BuildInputs

namespace Project

/-- The bytes of a file; none if there is no such file or it cannot be read. -/
def bytesAt (d : Disk) : Option Path → ByteArray
  | none => .empty
  | some path => match d.read path with
    | .ok bytes => bytes
    | .error _ => .empty

def inputs (d : Disk) (p : Project) (roots : List Path) : BuildInputs where
  config := bytesAt d p.configPath
  exemptions := bytesAt d p.exemptionConfig
  rules := p.rules.map (·.name)
  roots := roots.map fun root => (root, bytesAt d (some root))

def signature (d : Disk) (p : Project) (roots : List Path) : String := (p.inputs d roots).signature

end Project

/-! ## Records -/

structure BuildInfo where
  version : String
  signature : String
  /-- What was written, as seen from the directory of the project. -/
  outputs : List String
  deriving DecidableEq, Repr, Inhabited

def BuildInfo.saveMessage : Disk.SaveError → String
  | .makeDir dir e => "create " ++ dir.text ++ ": " ++ e.message
  | .write path e => "write " ++ path.text ++ ": " ++ e.message

structure RemoveError where
  path : Path
  error : DiskError
  deriving DecidableEq, Repr

def RemoveError.message (e : RemoveError) : String :=
  "remove " ++ e.path.text ++ ": " ++ e.error.message

namespace BuildInfo

open Json (Layout Datum)

def schema : Unit → Layout Unit := fun _ =>
  { name := "BuildInfo"
    fields := [
      { key := "version", shape := .text },
      { key := "signature", shape := .text },
      { key := "outputs", shape := .list .text, absent := some (.list []) }] }

def ofDatum : Datum → BuildInfo
  | .record [version, signature, outputs] =>
    ⟨version.asText, signature.asText, outputs.asList Datum.asText⟩
  | _ => default

def toDatum (i : BuildInfo) : Datum :=
  .record [.text i.version, .text i.signature, .list (i.outputs.map .text)]

def parse (text : String) : Except Json.Failure BuildInfo :=
  (Json.readRecord schema () text.toList).map ofDatum

def render (i : BuildInfo) : String :=
  String.ofList (Json.write schema (.record ()) i.toDatum).pretty

/-- An output as seen from the directory of a project, with forward slashes. -/
def outputName (p : Project) (output : Path) : String :=
  String.ofList (ProjectPath.forwardSlashes ((output.strip? p.dir).getD output).chars)

def of (p : Project) (signature : String) (outputs : List Path) : BuildInfo :=
  ⟨toolVersion, signature, outputs.map (outputName p)⟩

def outputPaths (i : BuildInfo) (p : Project) : List Path :=
  i.outputs.map fun o => p.dir.join (.ofString o)

def read (d : Disk) (p : Project) : Option BuildInfo :=
  match d.readText p.buildInfoPath with
  | .error _ => none
  | .ok text => (parse text).toOption

def write (d : Disk) (p : Project) (i : BuildInfo) : Except Disk.SaveError Unit × Disk :=
  d.save p.buildInfoPath i.render

end BuildInfo

namespace Project

/-- Has a project the record of a signature, with everything that was written still there? -/
def isUpToDate (d : Disk) (p : Project) (signature : String) : Bool :=
  match BuildInfo.read d p with
  | none => false
  | some i => i.signature == signature && (i.outputPaths p).all d.holds

/-- Removes files, those that are not there aside. -/
def removeFiles (d : Disk) : List Path → Except RemoveError (List Path) × Disk
  | [] => (.ok [], d)
  | p :: ps => match d.removeFile p with
    | (.error .notFound, d) => removeFiles d ps
    | (.error e, d) => (.error ⟨p, e⟩, d)
    | (.ok (), d) => match removeFiles d ps with
      | (.error e, d) => (.error e, d)
      | (.ok removed, d) => (.ok (p :: removed), d)

def leavings (d : Disk) (p : Project) : List Path :=
  ((BuildInfo.read d p).map (·.outputPaths p)).getD [] ++ [p.buildInfoPath]

/-- Removes what a build of a project left. The result is what was there. -/
def clean (d : Disk) (p : Project) : Except RemoveError (List Path) × Disk :=
  removeFiles d (p.leavings d)

end Project

end Conformance
