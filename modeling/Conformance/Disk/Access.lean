import Conformance.Disk.Basic
import Conformance.Path.Basic
import Conformance.Text.Bytes
/-!
# Reading and writing

A path is followed piece by piece from the root, or from the directory that
relative paths start from.  Every piece, an idle one included, asks for a
directory to stand in, so a slash behind the name of a file is refused.  Double
dots go up one place; the root is above itself.

Operations that make or remove something follow the path up to its last name and
then look at that name alone.  A path that ends in a dot, in double dots or at the
root has no last name.
-/
namespace Conformance

namespace Disk

/-- The greatest length of a name, in bytes. -/
def nameLimit : Nat := 255

/-- The length, in bytes, that a path must stay below. -/
def pathLimit : Nat := 4096

def isLongName (name : List Char) : Bool := nameLimit < Text.byteLength name

def checkPath (p : Path) : Except DiskError Unit :=
  if p.chars.contains '\x00' then .error .zeroInPath
  else if p.chars.isEmpty then .error .notFound
  else if pathLimit ≤ Text.byteLength p.chars then .error .nameTooLong
  else .ok ()

/-! ## Following a path -/

def child (d : Disk) (place : Place) (name : List Char) : Except DiskError (Place × Entry) :=
  if isLongName name then .error .nameTooLong
  else match d.find? (place ++ [name]) with
    | none => .error .notFound
    | some e => .ok (place ++ [name], e)

/-- Takes one piece of a path from what is at a place. -/
def step (d : Disk) (spot : Place × Entry) (piece : List Char) :
    Except DiskError (Place × Entry) :=
  match spot.2 with
  | .file _ => .error .notADirectory
  | .dir =>
    if Path.isIdle piece then .ok spot
    else if piece = Path.dotDot then .ok (spot.1.dropLast, .dir)
    else d.child spot.1 piece

def follow (d : Disk) : Place × Entry → List (List Char) → Except DiskError (Place × Entry)
  | spot, [] => .ok spot
  | spot, piece :: pieces => match d.step spot piece with
    | .error e => .error e
    | .ok next => d.follow next pieces

def start (d : Disk) (p : Path) : Place × Entry :=
  if p.isAbsolute then ([], .dir) else (d.here, .dir)

def resolve (d : Disk) (p : Path) : Except DiskError (Place × Entry) :=
  match checkPath p with
  | .error e => .error e
  | .ok () => d.follow (d.start p) p.pieces

def isDir (d : Disk) (p : Path) : Bool :=
  match d.resolve p with
  | .ok (_, .dir) => true
  | _ => false

/-- Does a path lead anywhere? -/
def holds (d : Disk) (p : Path) : Bool :=
  match d.resolve p with
  | .ok _ => true
  | .error _ => false

/-! ## Reading -/

def read (d : Disk) (p : Path) : Except DiskError ByteArray :=
  match d.resolve p with
  | .error e => .error e
  | .ok (_, .dir) => .error .isADirectory
  | .ok (_, .file bytes) => .ok bytes

def readText (d : Disk) (p : Path) : Except DiskError String :=
  match d.read p with
  | .error e => .error e
  | .ok bytes => match String.fromUTF8? bytes with
    | none => .error .notText
    | some s => .ok s

/-- The files below a directory, each under its path from there. A path that leads to no
directory has none. -/
def filesBelow (d : Disk) (dir : Path) : List Path :=
  match d.resolve dir with
  | .ok (place, .dir) => (d.below place).filterMap fun x => match x.2 with
    | .file _ => some (dir.join ⟨Text.joinWith '/' x.1⟩)
    | .dir => none
  | _ => []

/-! ## Making and removing -/

/-- The last name of a path, and the directory that it is looked for in. -/
structure Target where
  dir : Place
  name : List Char
  /-- Does a slash stand behind the name? -/
  slashed : Bool
  deriving DecidableEq, Repr

def Target.place (t : Target) : Place := t.dir ++ [t.name]

/-- The pieces of a path, with the dot in front of it. -/
def piecesWithDot (p : Path) : List (List Char) :=
  match p.lead with
  | .dot => ['.'] :: p.pieces
  | _ => p.pieces

/-- Follows a path up to its last name. A path that ends in a dot, in double dots or at the root
has none. -/
def target (d : Disk) (p : Path) : Except DiskError (Option Target) :=
  match checkPath p with
  | .error e => .error e
  | .ok () => match (piecesWithDot p).reverse.dropWhile List.isEmpty with
    | [] => .ok none
    | name :: before => match d.follow (d.start p) before.reverse with
      | .error e => .error e
      | .ok (_, .file _) => .error .notADirectory
      | .ok (dir, .dir) =>
        if name = ['.'] ∨ name = Path.dotDot then .ok none
        else .ok (some ⟨dir, name, (piecesWithDot p).getLast? == some []⟩)

def write (d : Disk) (p : Path) (bytes : ByteArray) : Except DiskError Unit × Disk :=
  match d.target p with
  | .error e => (.error e, d)
  | .ok none => (.error .isADirectory, d)
  | .ok (some t) =>
    if t.slashed then (.error .isADirectory, d)
    else if isLongName t.name then (.error .nameTooLong, d)
    else match d.find? t.place with
      | some .dir => (.error .isADirectory, d)
      | _ => (.ok (), d.put t.place (.file bytes))

def writeText (d : Disk) (p : Path) (s : String) : Except DiskError Unit × Disk :=
  d.write p s.toUTF8

def makeDir (d : Disk) (p : Path) : Except DiskError Unit × Disk :=
  match d.target p with
  | .error e => (.error e, d)
  | .ok none => (.error .alreadyExists, d)
  | .ok (some t) =>
    if isLongName t.name then (.error .nameTooLong, d)
    else match d.find? t.place with
      | some _ => (.error .alreadyExists, d)
      | none => (.ok (), d.put t.place .dir)

def ensureDir (d : Disk) (p : Path) : Except DiskError Unit × Disk :=
  match d.makeDir p with
  | (.error e, d) => if d.isDir p then (.ok (), d) else (.error e, d)
  | done => done

/-- Makes the first of some directories, of which each stands in the next. The next ones are made
only if they are missing. -/
def ensureChain (d : Disk) : List Path → Except DiskError Unit × Disk
  | [] => (.ok (), d)
  | p :: above =>
    if p.components.isEmpty then (.ok (), d)
    else match d.makeDir p with
      | (.ok (), d) => (.ok (), d)
      | (.error .notFound, d) => match d.ensureChain above with
        | (.error e, d) => (.error e, d)
        | (.ok (), d) => d.ensureDir p
      | (.error e, d) => if d.isDir p then (.ok (), d) else (.error e, d)

/-- Makes a directory and those it stands in, as far as they are missing. -/
def ensureDirs (d : Disk) (p : Path) : Except DiskError Unit × Disk := d.ensureChain p.ancestors

inductive SaveError where
  /-- The directory it goes to could not be made. -/
  | makeDir (dir : Path) (error : DiskError)
  | write (path : Path) (error : DiskError)
  deriving DecidableEq, Repr

def SaveError.refusal : SaveError → DiskError
  | .makeDir _ e => e
  | .write _ e => e

def ensureParent (d : Disk) (p : Path) : Except SaveError Unit × Disk :=
  match p.parent with
  | none => (.ok (), d)
  | some dir => match d.ensureDirs dir with
    | (.error e, d) => (.error (.makeDir dir e), d)
    | (.ok (), d) => (.ok (), d)

/-- Writes a text as a file, and makes the directories that it needs. -/
def save (d : Disk) (p : Path) (s : String) : Except SaveError Unit × Disk :=
  match d.ensureParent p with
  | (.error e, d) => (.error e, d)
  | (.ok (), d) => match d.writeText p s with
    | (.error e, d) => (.error (.write p e), d)
    | (.ok (), d) => (.ok (), d)

def removeFile (d : Disk) (p : Path) : Except DiskError Unit × Disk :=
  match d.target p with
  | .error e => (.error e, d)
  | .ok none => (.error .isADirectory, d)
  | .ok (some t) =>
    if isLongName t.name then (.error .nameTooLong, d)
    else match d.find? t.place with
      | none => (.error .notFound, d)
      | some .dir => (.error .isADirectory, d)
      | some (.file _) =>
        if t.slashed then (.error .notADirectory, d) else (.ok (), d.erase t.place)

def removeAll (d : Disk) (p : Path) : Except DiskError Unit × Disk :=
  match d.resolve p with
  | .error e => (.error e, d)
  | .ok (place, _) => (.ok (), d.prune place)

end Disk

end Conformance
