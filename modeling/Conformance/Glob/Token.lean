/-!
# Globs

A glob is a pattern for whole paths.  A star stands for any run of characters
inside one name and a question mark for one; a double star that makes up a whole
name stands for any number of directories; brackets hold classes and braces hold
alternatives.

The text of a glob is read from left to right into tokens.  Open braces are kept
as a stack: the branch being read, and for each open group the branch around it
with the branches of the group that are complete.
-/
namespace Conformance

inductive GlobToken where
  /-- A character that stands for itself. -/
  | literal (c : Char)
  /-- A question mark: anything but a slash, once. -/
  | any
  /-- A star: a run of anything but slashes. -/
  | star
  /-- A double star in front: no directory, or any number of them. -/
  | leading
  /-- A double star at the end: everything below. -/
  | trailing
  /-- A double star in the middle, with the slashes around it. -/
  | between
  /-- A class of characters, or all characters outside it. -/
  | cls (negated : Bool) (ranges : List (Char × Char))
  /-- Alternatives. -/
  | oneOf (branches : List (List GlobToken))
  deriving Repr, Inhabited

inductive GlobFault where
  | unclosedClass
  | invalidRange (lo hi : Char)
  | unopenedGroup
  | unclosedGroup
  | danglingEscape
  /-- The expression with this number cannot be read. -/
  | expression (index : Nat)
  deriving DecidableEq, Repr

def GlobFault.message : GlobFault → String
  | .unclosedClass => "unclosed character class; missing ']'"
  | .invalidRange lo hi => s!"invalid range; '{lo}' > '{hi}'"
  | .unopenedGroup =>
    "unopened alternate group; missing '\x7b' (maybe escape '\x7d' with '[\x7d]'?)"
  | .unclosedGroup =>
    "unclosed alternate group; missing '\x7d' (maybe escape '\x7b' with '[\x7b]'?)"
  | .danglingEscape => "dangling '\\'"
  | .expression index => s!"error parsing pattern {index}"

structure GlobError where
  glob : Option String
  fault : GlobFault
  deriving DecidableEq, Repr

def GlobError.message (e : GlobError) : String :=
  match e.glob with
  | some glob => s!"error parsing glob '{glob}': " ++ e.fault.message
  | none => e.fault.message

namespace GlobToken

/-! ## Classes -/

/-- Extends the last range of a class, given the last one first. -/
def extendRange (hi : Char) : List (Char × Char) → Except GlobFault (List (Char × Char))
  | [] => .ok [(hi, hi)]
  | (lo, _) :: ranges => if hi < lo then .error (.invalidRange lo hi) else .ok ((lo, hi) :: ranges)

/-- Reads a class up to its end. `first` holds at its first character, where a bracket or hyphen
stands for itself, and `pending` after a hyphen that may make a range. The ranges read so far are
given the last one first. -/
def classBody : (first pending : Bool) → List (Char × Char) → List Char →
    Except GlobFault (List (Char × Char) × List Char)
  | _, _, _, [] => .error .unclosedClass
  | first, pending, ranges, c :: cs =>
    if c = ']' && !first then
      .ok ((if pending then ('-', '-') :: ranges else ranges).reverse, cs)
    else if c = '-' && !first && !pending then classBody false true ranges cs
    else if pending then
      match extendRange c ranges with
      | .error e => .error e
      | .ok ranges => classBody false false ranges cs
    else classBody false false ((c, c) :: ranges) cs

def readClass : List Char → Except GlobFault (GlobToken × List Char)
  | '!' :: cs => (classBody true false [] cs).map fun r => (.cls true r.1, r.2)
  | '^' :: cs => (classBody true false [] cs).map fun r => (.cls true r.1, r.2)
  | cs => (classBody true false [] cs).map fun r => (.cls false r.1, r.2)

/-! ## Branches -/

/-- What has been read: the branch at hand, and the open groups from the innermost outwards, each
with the branch around it and its complete branches. Tokens and branches are given the last one
first. -/
structure Reading where
  branch : List GlobToken := []
  groups : List (List GlobToken × List (List GlobToken)) := []

namespace Reading

def push (r : Reading) (t : GlobToken) : Reading := { r with branch := t :: r.branch }

def openGroup (r : Reading) : Reading := ⟨[], (r.branch, []) :: r.groups⟩

/-- Starts another branch. Outside of groups a comma stands for itself. -/
def comma (r : Reading) : Reading :=
  match r.groups with
  | [] => r.push (.literal ',')
  | (outer, done) :: gs => ⟨[], (outer, r.branch.reverse :: done) :: gs⟩

def closeGroup (r : Reading) : Except GlobFault Reading :=
  match r.groups with
  | [] => .error .unopenedGroup
  | (outer, done) :: gs => .ok ⟨.oneOf (r.branch.reverse :: done).reverse :: outer, gs⟩

/-- Puts a double star in the place of the slash before it. Behind another double star that
already covers it, it adds nothing. -/
def double (r : Reading) (t : GlobToken) : Reading :=
  match r.branch with
  | .leading :: _ => r
  | .trailing :: _ => r
  | ts => { r with branch := t :: ts.drop 1 }

end Reading

/-! ## The whole glob -/

/-- Reads one or two stars, behind the first one. Gives the last character read, the tokens and
the text behind. A double star counts as one only where it makes up a whole name. -/
def readStar (prev : Option Char) (r : Reading) (cs : List Char) :
    Option Char × Reading × List Char :=
  match cs with
  | '*' :: rest =>
    let plain := (some '*', (r.push .star).push .star, rest)
    if r.branch.isEmpty then
      match rest with
      | [] => (some '*', r.push .leading, [])
      | '/' :: rest => (some '/', r.push .leading, rest)
      | _ => plain
    else if prev ≠ some '/' ∧ (r.groups.isEmpty ∨ (prev ≠ some ',' ∧ prev ≠ some '\x7b')) then plain
    else
      match rest with
      | [] => (some '*', r.double .trailing, [])
      | '/' :: rest => (some '/', r.double .between, rest)
      | c :: _ =>
        if !r.groups.isEmpty && (c == ',' || c == '\x7d') then (some '*', r.double .trailing, rest)
        else plain
  | _ => (some '*', r.push .star, cs)

/-- Reads the tokens of a glob in at most so many steps, with the last character read. -/
def readSteps : Nat → Option Char → Reading → List Char → Except GlobFault Reading
  | 0, _, r, _ => .ok r
  | _ + 1, _, r, [] => .ok r
  | n + 1, prev, r, c :: cs =>
    if c = '?' then readSteps n (some c) (r.push .any) cs
    else if c = '*' then
      let (prev, r, rest) := readStar prev r cs
      readSteps n prev r rest
    else if c = '[' then
      match readClass cs with
      | .error e => .error e
      | .ok (t, rest) => readSteps n (some ']') (r.push t) rest
    else if c = '\x7b' then readSteps n (some c) r.openGroup cs
    else if c = '\x7d' then
      match r.closeGroup with
      | .error e => .error e
      | .ok r => readSteps n (some c) r cs
    else if c = ',' then readSteps n (some c) r.comma cs
    else if c = '\\' then
      match cs with
      | [] => .error .danglingEscape
      | d :: rest => readSteps n (some d) (r.push (.literal d)) rest
    else readSteps n (some c) (r.push (.literal c)) cs

def parse (cs : List Char) : Except GlobFault (List GlobToken) :=
  match readSteps (cs.length + 1) none {} cs with
  | .error e => .error e
  | .ok r => match r.groups with
    | [] => .ok r.branch.reverse
    | _ => .error .unclosedGroup

end GlobToken

end Conformance
