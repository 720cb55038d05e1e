import Conformance.Path.Basic
/-!
# Project paths

Diagnostics and exemptions name a file by its path inside the project, in one
spelling whatever the machine: forward slashes, and no leading dot.  A
`ProjectPath` is such a spelling.  Nothing else is normalised: a path outside the
project stays as it was given.
-/
namespace Conformance

structure ProjectPath where
  chars : List Char
  deriving DecidableEq, Repr, Inhabited

namespace ProjectPath

def text (p : ProjectPath) : String := String.ofList p.chars

/-- Drops every `./` that a text starts with. -/
def dropDotSlash : List Char → List Char
  | '.' :: '/' :: rest => dropDotSlash rest
  | cs => cs

def forwardSlashes (cs : List Char) : List Char := cs.map fun c => if c = '\\' then '/' else c

/-- The project path that a text spells. The empty text spells the project itself. -/
def ofChars (cs : List Char) : ProjectPath :=
  match dropDotSlash (forwardSlashes cs) with
  | [] => ⟨['.']⟩
  | rest => ⟨rest⟩

def ofString (s : String) : ProjectPath := ofChars s.toList

def here : ProjectPath := ofString "."

/-- A path as seen from the directory `root`; a path elsewhere is kept. -/
def relativeTo (root path : Path) : ProjectPath :=
  ofChars ((path.strip? root).getD path).chars

/-- Drops the slashes that a text ends with. -/
def dropSlashesEnd (cs : List Char) : List Char := (cs.reverse.dropWhile (· == '/')).reverse

def behind? : List Char → List Char → Option (List Char)
  | [], cs => some cs
  | _ :: _, [] => none
  | f :: fs, c :: cs => if f = c then behind? fs cs else none

/-- Does `dir`, slashes at its end aside, name this path or a directory above it? The empty
name covers nothing. -/
def isUnder (p : ProjectPath) (dir : List Char) : Bool :=
  let dir := dropSlashesEnd dir
  if dir.isEmpty then false
  else match behind? dir p.chars with
    | none => false
    | some [] => true
    | some (c :: _) => c == '/'

/-- The path with its text read as a path of the machine. -/
def toPath (p : ProjectPath) : Path := ⟨p.chars⟩

end ProjectPath

end Conformance
