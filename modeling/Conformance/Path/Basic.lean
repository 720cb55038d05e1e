import Conformance.Text.Split
/-!
# Paths

A path is the text a user or a document wrote.  It is kept as written, because
answers show it as written: joining, taking a parent and stripping a leading
directory cut and glue the text, and nothing is resolved behind the caller's
back (`normalize` does that where it is asked for).

The pieces of a path are what stands between its slashes.  A piece that is empty
or a single dot names nothing, except a dot in front of a relative path.  The
other pieces, with the root and such a leading dot, are the path's components,
and two paths are compared by components.
-/
namespace Conformance

/-- A path as written. Directories are separated by `/`. -/
structure Path where
  chars : List Char
  deriving DecidableEq, Repr, Inhabited

namespace Path

def ofString (s : String) : Path := ⟨s.toList⟩

def text (p : Path) : String := String.ofList p.chars

@[simp] theorem chars_ofString (s : String) : (ofString s).chars = s.toList := rfl

/-! ## Pieces -/

open Text (splitOn joinWith joinWith_splitOn)

inductive Lead where
  /-- A name: the path is relative. -/
  | bare
  /-- The root: the path is absolute. -/
  | root
  /-- A dot: the path is relative and says so. -/
  | dot
  deriving DecidableEq, Repr

/-- Splits a path into its lead and the pieces behind it. -/
def leadAndPieces (p : Path) : Lead × List (List Char) :=
  match p.chars with
  | '/' :: rest => (.root, splitOn '/' rest)
  | cs => match splitOn '/' cs with
    | ['.'] :: pieces => (.dot, pieces)
    | pieces => (.bare, pieces)

def lead (p : Path) : Lead := p.leadAndPieces.1

/-- The text between the slashes of a path, behind its lead. -/
def pieces (p : Path) : List (List Char) := p.leadAndPieces.2

def ofPieces : Lead → List (List Char) → Path
  | .bare, ps => ⟨joinWith '/' ps⟩
  | .root, ps => ⟨'/' :: joinWith '/' ps⟩
  | .dot, ps => ⟨joinWith '/' (['.'] :: ps)⟩

/-- **A path is its lead and its pieces.** -/
theorem ofPieces_lead_pieces (p : Path) : ofPieces p.lead p.pieces = p := by
  unfold lead pieces leadAndPieces
  split
  · rename_i rest h
    simp [ofPieces, joinWith_splitOn, ← h]
  · rename_i cs h
    have hj := joinWith_splitOn '/' p.chars
    split
    · rename_i ps hs
      simp only [ofPieces]
      rw [← hs, hj]
    · simp only [ofPieces, hj]

def isAbsolute (p : Path) : Bool := p.lead == .root

/-- Nothing between two slashes, or a dot: a piece that names the directory it stands in. -/
def isIdle (piece : List Char) : Bool := piece == [] || piece == ['.']

/-! ## Components -/

inductive Component where
  /-- The root of an absolute path. -/
  | root
  /-- The dot in front of a relative path. -/
  | here
  /-- Two dots. -/
  | up
  /-- The name of a file or directory. -/
  | name (chars : List Char)
  deriving DecidableEq, Repr

def Component.ofPiece (piece : List Char) : Component :=
  if piece == ['.', '.'] then .up else .name piece

/-- The steps that some pieces take; idle ones take none. -/
def stepsOf (pieces : List (List Char)) : List Component :=
  (pieces.filter (fun p => !isIdle p)).map Component.ofPiece

def Lead.steps : Lead → List Component
  | .bare => []
  | .root => [.root]
  | .dot => [.here]

/-- The steps of a path. Repeated slashes and inner dots take none. -/
def components (p : Path) : List Component := p.lead.steps ++ stepsOf p.pieces

/-! ## Joining -/

/-- Reads `q` as a path inside `p`. An absolute `q` stands for itself; an empty `q` leaves the
directory with a slash behind it. -/
def join (p q : Path) : Path :=
  if q.isAbsolute || p.chars.isEmpty then q
  else if p.chars.getLast? == some '/' then ⟨p.chars ++ q.chars⟩
  else ⟨p.chars ++ '/' :: q.chars⟩

/-! ## Parents and leading directories -/

def dropIdleEnd (pieces : List (List Char)) : List (List Char) :=
  (pieces.reverse.dropWhile isIdle).reverse

/-- The directory that a path stands in, as written. The root and the empty path stand in
none. -/
def parent (p : Path) : Option Path :=
  match dropIdleEnd p.pieces, p.lead with
  | [], .dot => some ⟨[]⟩
  | [], _ => none
  | ps, l => some (ofPieces l (dropIdleEnd ps.dropLast))

/-- The directories above some pieces, given the last piece first: each is the parent of the one
before it. -/
def parentsOf (l : Lead) : List (List Char) → List Path
  | [] => match l with
    | .dot => [⟨[]⟩]
    | _ => []
  | piece :: before =>
    if isIdle piece then parentsOf l before
    else ofPieces l (before.dropWhile isIdle).reverse :: parentsOf l before

/-- A path, the directory it stands in, the directory that one stands in, and so on. -/
def ancestors (p : Path) : List Path := p :: parentsOf p.lead p.pieces.reverse

def dropSteps : List Component → List (List Char) → Option (List (List Char))
  | [], ps => some ps
  | _ :: _, [] => none
  | c :: cs, p :: ps =>
    if isIdle p then dropSteps (c :: cs) ps
    else if Component.ofPiece p = c then dropSteps cs ps
    else none

/-- What is left of `p` below the directory `dir`, when `p` starts with `dir` component by
component. The text in between stays as written; idle pieces at both ends go. -/
def strip? (p dir : Path) : Option Path :=
  if dir.components = [] then some (ofPieces p.lead (dropIdleEnd p.pieces))
  else if p.lead = dir.lead then
    (dropSteps (stepsOf dir.pieces) p.pieces).map fun ps =>
      ⟨joinWith '/' (dropIdleEnd (ps.dropWhile isIdle))⟩
  else none

/-! ## Dots and double dots

Two routes to one file may be spelled differently.  `normalize` resolves the dots and double dots
of a path by its text alone, without asking the disk, so that a project reached by two routes gets
one key.

The steps of a path are walked with a stack of names.  A double dot takes the name on top off the
stack; where there is none it stays, unless the path is absolute, because the root is its own
parent.  The stack never holds a dot, and holds double dots only at its bottom. -/

def dotDot : List Char := ['.', '.']

/-- Takes one step with the names walked so far on a stack, the last one first. -/
def stackStep (rooted : Bool) (stack : List (List Char)) : Component → List (List Char)
  | .root => stack
  | .here => stack
  | .name n => n :: stack
  | .up => match stack with
    | [] => if rooted then [] else [dotDot]
    | top :: below => if top = dotDot then dotDot :: stack else below

/-- The names left on the stack after all steps, the first one first. -/
def resolvedNames (rooted : Bool) (steps : List Component) : List (List Char) :=
  (steps.foldl (stackStep rooted) []).reverse

/-- The path with its dots and double dots resolved by text alone. -/
def normalize (p : Path) : Path :=
  ofPieces (if p.isAbsolute then .root else .bare) (resolvedNames p.isAbsolute p.components)

end Path

end Conformance
