import Conformance.Disk.Access
import Conformance.Exemption.File
import Conformance.Pass
import Conformance.Path.Order
import Conformance.Project.Basic
import Conformance.Tree.Document
/-!
# Projects on disk

A project is named by its directory or by its project file.  Loading one reads
and settles the file; its root files are then those it names, or those below its
directory that its globs take, in the order of their names.

Root files that cannot be used do not stop a run.  Each leaves a diagnostic in the
program, and so does an exemption file that cannot be read.
-/
namespace Conformance

inductive ConfigError where
  | unreadable (path : Path) (error : DiskError)
  | unparsable (path : Path) (failure : Json.Failure)
  | invalid (path : Path) (fault : ConfigFault)
  deriving DecidableEq, Repr

def ConfigError.message : ConfigError → String
  | .unreadable path e => "Cannot read file '" ++ path.text ++ "': " ++ e.message
  | .unparsable path f => "Failed to parse '" ++ path.text ++ "': " ++ f.message
  | .invalid path f => "Invalid config '" ++ path.text ++ "': " ++ f.message

namespace Project

def configName : Path := .ofString "tsconfig.json"

/-- The project file that a path names: the one in it if it is a directory, else itself. -/
def locate (d : Disk) (p : Path) : Path := if d.isDir p then p.join configName else p

def load (d : Disk) (configPath : Path) : Except ConfigError Project :=
  match d.readText configPath with
  | .error e => .error (.unreadable configPath e)
  | .ok text => match ConfigFile.parse text with
    | .error f => .error (.unparsable configPath f)
    | .ok c => match Project.ofConfig c configPath with
      | .error f => .error (.invalid configPath f)
      | .ok p => .ok p

/-! ## Root files -/

def takes (p : Project) (file : ProjectPath) : Bool :=
  Glob.anyMatch p.included file.chars && !Glob.anyMatch p.excluded file.chars

/-- The order of root files: by the text of the path in the project, then by the path as a whole,
step by step. -/
def rootLe (a b : ProjectPath × Path) : Bool :=
  if a.1 = b.1 then a.2.le b.2 else Text.le a.1.chars b.1.chars

def discovered (d : Disk) (p : Project) : List (ProjectPath × Path) :=
  (((d.filesBelow p.dir).map fun path => (ProjectPath.relativeTo p.dir path, path)).filter
    fun file => p.takes file.1).mergeSort rootLe

/-- The root files of a project. Those that are named are taken as they are. -/
def roots (d : Disk) (p : Project) : List Path :=
  match p.files with
  | some files => files
  | none => (discovered d p).eraseDups.map (·.2)

/-! ## The program -/

/-- Reads a root file, or says what is wrong with it. -/
def loadFile (d : Disk) (dir root : Path) : Except Diagnostic SourceFile :=
  let shown := (ProjectPath.relativeTo dir root).text
  match d.readText root with
  | .error _ =>
    .error (.globalError Diagnostic.notFoundCode ("File '" ++ shown ++ "' not found."))
  | .ok text => match SourceFile.parse text with
    | .error f => .error (.globalError Diagnostic.invalidTreeCode
        ("Invalid typed tree '" ++ shown ++ "': " ++ f.message))
    | .ok file => .ok file

def addFile (program : Program) : Except Diagnostic SourceFile → Program
  | .ok file => { program with files := program.files ++ [file] }
  | .error diagnostic => { program with globals := program.globals ++ [diagnostic] }

def loadProgram (d : Disk) (dir : Path) (roots : List Path) : Program :=
  roots.foldl (fun program root => addFile program (loadFile d dir root)) ⟨[], []⟩

/-! ## Checking -/

/-- The exemptions of a project. A file that cannot be read exempts nothing and is reported. -/
def exemptions (d : Disk) (p : Project) : ParsedExemptions :=
  match p.exemptionConfig with
  | none => {}
  | some path =>
    let shown := ProjectPath.relativeTo p.dir path
    match d.readText path with
    | .ok text => ExemptionFile.parse shown text
    | .error e =>
      { diagnostics := [.globalError Diagnostic.exemptionCode
          ("Cannot read exemption config '" ++ shown.text ++ "': " ++ e.message ++ ".")] }

end Project

structure CheckError where
  /-- The directory of the project. -/
  dir : Path
  cause : PassError
  deriving DecidableEq, Repr

/-- The words for a check without a result. An overflow ends it wherever it happens, so nothing is
said about the project then. -/
def CheckError.message (e : CheckError) : String :=
  match e.cause with
  | .overflow o => o.message
  | cause => "conformance pass failed for project " ++ e.dir.text ++ ": " ++ cause.message

/-- All there is to say about the program of a project: about its exemptions first, then what the
checker and the rules found. Rules that are listed twice are a fault of the configuration. -/
def Project.check (d : Disk) (p : Project) (program : Program) :
    Except CheckError (List Diagnostic) :=
  let exemptions := p.exemptions d
  match runRules program p.rules exemptions.list with
  | .ok found => .ok (exemptions.diagnostics ++ found)
  | .error (.duplicateRule name) =>
    .ok (exemptions.diagnostics ++
      [.globalError Diagnostic.configCode (PassError.duplicateRule name).message])
  | .error e => .error ⟨p.dir, e⟩

end Conformance
