import Conformance.Diagnostic
import Conformance.Tree.Node
/-!
# Files and programs

A program is the list of its files as the type checker left them, with what the
checker said about each, and what the loader had to say about files it could not
use.  Declaration files describe code that lives elsewhere: they are read, and no
rule looks into them.
-/
namespace Conformance

structure CheckerMessage where
  severity : Severity
  code : UInt32
  message : String
  /-- Byte offset, when the message has a place. -/
  start : Option UInt32
  length : Option UInt32
  deriving DecidableEq, Repr, Inhabited

/-- A file as the type checker left it. -/
structure SourceFile where
  /-- The name of the source file inside the project. -/
  fileName : String
  isDeclarationFile : Bool
  text : String
  messages : List CheckerMessage
  /-- The compiled text, if there is one. -/
  output : Option String
  statements : List Node
  deriving Repr, Inhabited

/-- The endings of files that only declare. -/
def declarationEndings : List (List Char) :=
  [".d.ts".toList, ".d.mts".toList, ".d.cts".toList]

def isDeclarationName (name : List Char) : Bool :=
  declarationEndings.any (·.isSuffixOf name)

namespace SourceFile

/-- The path that diagnostics show for a file. -/
def path (f : SourceFile) : ProjectPath := .ofString f.fileName

/-- Is this a declaration file, by its flag or by its name? -/
def isDeclaration (f : SourceFile) : Bool :=
  f.isDeclarationFile || isDeclarationName f.fileName.toList

def slice (f : SourceFile) (start stop : UInt32) : List Char := Text.slice f.text.toList start stop

def lineMap (f : SourceFile) : Except Text.Overflow Text.LineMap :=
  Text.LineMap.ofText f.text.toList

def position (f : SourceFile) (offset : UInt32) : Except Text.Overflow Text.Position :=
  Text.position f.text.toList offset

/-- A checker's message as a diagnostic, by the lines of the file. -/
def diagnosticOf (f : SourceFile) (lines : Text.LineMap) (m : CheckerMessage) :
    Except Text.Overflow Diagnostic := do
  let location ← m.start.mapM fun start => do
    let position ← lines.position f.text.toList start
    return ({ path := f.path, start := start, length := m.length.getD 0, position := position } :
      Location)
  return { severity := m.severity, code := m.code, message := m.message, location := location }

/-- What the type checker said about a file. The lines of the file are counted also when it said
nothing. -/
def compilerDiagnostics (f : SourceFile) : Except Text.Overflow (List Diagnostic) := do
  let lines ← f.lineMap
  f.messages.mapM (f.diagnosticOf lines)

end SourceFile

/-- The files of a program, in the order of its roots. -/
structure Program where
  files : List SourceFile
  /-- What is said about the program as a whole. -/
  globals : List Diagnostic
  deriving Repr, Inhabited

namespace Program

def file? (p : Program) (path : ProjectPath) : Option SourceFile :=
  p.files.find? (·.path == path)

/-- Everything known before a rule has looked: about the program first, then file by file. -/
def preEmit (p : Program) : Except Text.Overflow (List Diagnostic) := do
  let told ← p.files.mapM SourceFile.compilerDiagnostics
  return p.globals ++ told.flatten

/-- Did the type checker or the loader find an error? -/
def hasErrors (p : Program) : Except Text.Overflow Bool := do
  return Diagnostic.anyError (← p.preEmit)

end Program

end Conformance
